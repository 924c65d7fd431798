/-
# Attempts that correspond

Two attempts may be made on different states and still come to the same.  A *correspondence* says
which states belong together and what may stand in the journals; it is closed under composition, so
that two composed attempts match when their parts do (`Attempt.Matches.bind`).  States may belong
together because the one is the image of the other under some function; then attempts that match
do the same before the function is applied and after it (`Attempt.matches_image_iff`).
-/
import SetupWizard.Proofs.Law

namespace SetupWizard

open Attempt

variable {ω S S' α β : Type}

/-- Which states belong together, and what may stand in the journals on the way to them. -/
structure Correspondence (ω S S' : Type) where
  state : S → S' → Prop
  journal : List ω → List ω → Prop
  journal_nil : journal [] []
  journal_append {js js' ks ks' : List ω} :
    journal js js' → journal ks ks' → journal (js ++ ks) (js' ++ ks')

/-- Two reports with the same result, in which everything else belongs together. -/
structure Correspondence.Relates (C : Correspondence ω S S') (r : Report ω S (Except Failure α))
    (r' : Report ω S' (Except Failure α)) : Prop where
  result : r'.result = r.result
  state : C.state r.state r'.state
  journal : C.journal r.journal r'.journal

/-- Two attempts that come to the same from states that belong together. -/
def Attempt.Matches (C : Correspondence ω S S') (m : Attempt ω S α) (m' : Attempt ω S' α) : Prop :=
  ∀ s s', C.state s s' → C.Relates (m s) (m' s')

namespace Attempt.Matches

variable {C : Correspondence ω S S'}

lemma pure (a : α) : (Pure.pure a : Attempt ω S α).Matches C (Pure.pure a) :=
  fun _ _ h => ⟨rfl, h, C.journal_nil⟩

/-- **Composed attempts match when their parts do.** -/
lemma bind {m : Attempt ω S α} {m' : Attempt ω S' α} {f : α → Attempt ω S β}
    {f' : α → Attempt ω S' β} (hm : m.Matches C m') (hf : ∀ a, (f a).Matches C (f' a)) :
    (m >>= f).Matches C (m' >>= f') := by
  intro s s' h
  obtain ⟨hresult, hstate, hjournal⟩ := hm s s' h
  rcases hs : m s with ⟨failure | a, t, js⟩ <;> rcases hs' : m' s' with ⟨result, t', js'⟩ <;>
    rw [hs, hs'] at hresult hstate hjournal <;> obtain rfl := hresult
  · rw [bind_of_error hs, bind_of_error hs']
    exact ⟨rfl, hstate, hjournal⟩
  · rw [bind_of_ok hs, bind_of_ok hs']
    have hrest := hf a t t' hstate
    exact ⟨hrest.result, hrest.state, C.journal_append hjournal hrest.journal⟩

lemma map {m : Attempt ω S α} {m' : Attempt ω S' α} (f : α → β) (hm : m.Matches C m') :
    (m >>= fun a => Pure.pure (f a)).Matches C (m' >>= fun a => Pure.pure (f a)) :=
  hm.bind fun a => pure (f a)

/-- Attempts that look at their states first match when they match from these states. -/
lemma get_bind {f : S → Attempt ω S α} {f' : S' → Attempt ω S' α}
    (hf : ∀ s s', C.state s s' → (f s).Matches C (f' s')) :
    (Attempt.get >>= f).Matches C (Attempt.get >>= f') :=
  fun s s' h => hf s s' h s s' h

lemma modify {g : S → S} {g' : S' → S'} (hg : ∀ s s', C.state s s' → C.state (g s) (g' s')) :
    (Attempt.modify g : Attempt ω S Unit).Matches C (Attempt.modify g') :=
  fun s s' h => ⟨rfl, hg s s' h, C.journal_nil⟩

end Attempt.Matches

/-- A state belongs together with its image under a function; the journals are equal. -/
def Correspondence.image (g : S' → S) : Correspondence ω S S' where
  state s s' := s = g s'
  journal js js' := js' = js
  journal_nil := rfl
  journal_append h h' := by rw [h, h']

lemma Attempt.matches_image_iff {g : S' → S} {m : Attempt ω S α} {m' : Attempt ω S' α} :
    m.Matches (.image g) m' ↔ ∀ s, m (g s) = (m' s).mapState g := by
  constructor
  · intro h s
    obtain ⟨hresult, hstate, hjournal⟩ := h (g s) s rfl
    rcases hm : m (g s) with ⟨result, t, js⟩
    rw [hm] at hresult hstate hjournal
    obtain rfl := hresult
    obtain rfl := hstate
    obtain rfl := hjournal
    rfl
  · rintro h _ s rfl
    rw [h s]
    exact ⟨rfl, rfl, rfl⟩

end SetupWizard
