/-
# Laws of attempts

Whatever a wizard does is composed of a few small attempts, and most of what can be said about
the whole holds because it holds of these.  A *law* says what may become of a state, together
with what is written into the journal, in an attempt that succeeds and in one that fails.  It
has to be closed under composition; then an attempt obeys it as soon as its parts do
(`Attempt.Obeys.bind`), and nobody has to look at the composition again.
-/
import Mathlib.Tactic.Lemma
import SetupWizard.Step

namespace SetupWizard

/-- What attempts on a state `S` with entries `ω` in their journal may do. -/
structure Law (ω S : Type) where
  /-- What may become of a state in an attempt that succeeds. -/
  ok : S → List ω → S → Prop
  /-- What may become of a state in an attempt that fails. -/
  err : Failure → S → List ω → S → Prop
  ok_refl (s : S) : ok s [] s
  ok_trans {s t u : S} {js ks : List ω} : ok s js t → ok t ks u → ok s (js ++ ks) u
  err_trans {s t u : S} {js ks : List ω} {failure : Failure} :
    ok s js t → err failure t ks u → err failure s (js ++ ks) u

variable {ω S α β : Type} {L : Law ω S}

/-- The report of an attempt from a given state is one that the law allows. -/
def Law.Allows (L : Law ω S) (s : S) : Report ω S (Except Failure α) → Prop
  | ⟨.ok _, t, js⟩ => L.ok s js t
  | ⟨.error failure, t, js⟩ => L.err failure s js t

/-- What is allowed after a successful part is allowed for the whole. -/
lemma Law.Allows.after {s t : S} {js : List ω} (h : L.ok s js t)
    {report : Report ω S (Except Failure α)} (hrest : L.Allows t report) :
    L.Allows s ⟨report.result, report.state, js ++ report.journal⟩ := by
  rcases report with ⟨failure | a, u, ks⟩
  · exact L.err_trans h hrest
  · exact L.ok_trans h hrest

/-- The law that a property of the state is kept. -/
def Law.keeping (P : S → Prop) : Law ω S where
  ok s _ t := P s → P t
  err _ s _ t := P s → P t
  ok_refl _ := id
  ok_trans h h' := h' ∘ h
  err_trans h h' := h' ∘ h

namespace Attempt

/-- Looking at the state hands it on. -/
lemma get_bind (f : S → Attempt ω S β) (s : S) : (Attempt.get >>= f) s = f s s := rfl

/-- Where composed attempts succeed, both parts succeed, one after the other. -/
lemma exists_of_bind_ok {m : Attempt ω S α} {f : α → Attempt ω S β} {s u : S} {b : β}
    {ls : List ω} (h : (m >>= f) s = ⟨.ok b, u, ls⟩) :
    ∃ a t js ks, m s = ⟨.ok a, t, js⟩ ∧ f a t = ⟨.ok b, u, ks⟩ ∧ ls = js ++ ks := by
  rcases hm : m s with ⟨failure | a, t, js⟩
  · rw [bind_of_error hm] at h
    cases h
  · rw [bind_of_ok hm] at h
    rcases hf : f a t with ⟨result, v, ks⟩
    rw [hf] at h
    cases h
    exact ⟨a, t, js, ks, rfl, hf, rfl⟩

/-- What follows an attempt matters only from the states in which that can leave off. -/
lemma bind_congr_of_ok {m : Attempt ω S α} {f g : α → Attempt ω S β} {s : S}
    (h : ∀ a t js, m s = ⟨.ok a, t, js⟩ → f a t = g a t) : (m >>= f) s = (m >>= g) s := by
  rcases hm : m s with ⟨failure | a, t, js⟩
  · rw [bind_of_error hm, bind_of_error hm]
  · rw [bind_of_ok hm, bind_of_ok hm, h a t js hm]

/-- Looking at the result does nothing else. -/
lemma bind_pure_apply (m : Attempt ω S α) (f : α → β) (s : S) :
    (m >>= fun a => pure (f a)) s = ⟨(m s).result.map f, (m s).state, (m s).journal⟩ := by
  rcases h : m s with ⟨failure | a, t, js⟩
  · rw [bind_of_error h]
    rfl
  · rw [bind_of_ok h, pure_apply, List.append_nil]
    rfl

/-- An attempt from a given state keeps to a law. -/
def Obeys (L : Law ω S) (m : Attempt ω S α) (s : S) : Prop := L.Allows s (m s)

namespace Obeys

lemma pure (a : α) (s : S) : (Pure.pure a : Attempt ω S α).Obeys L s := L.ok_refl s

/-- **A composed attempt obeys a law when its parts do.**  Of the state in which the second part
begins it is known that the first part led there. -/
lemma bind {m : Attempt ω S α} {f : α → Attempt ω S β} {s : S} (hm : m.Obeys L s)
    (hf : ∀ a t js, m s = ⟨.ok a, t, js⟩ → L.ok s js t → (f a).Obeys L t) :
    (m >>= f).Obeys L s := by
  rcases h : m s with ⟨failure | a, t, js⟩
  · rw [Obeys, h] at hm
    rw [Obeys, bind_of_error h]
    exact hm
  · rw [Obeys, h] at hm
    rw [Obeys, bind_of_ok h]
    exact (hf a t js h hm : L.Allows t _).after hm

lemma get_bind {f : S → Attempt ω S β} {s : S} (hf : (f s).Obeys L s) :
    (Attempt.get >>= f).Obeys L s := hf

/-- An attempt whose result is only looked at obeys what it obeys by itself. -/
lemma map {m : Attempt ω S α} (f : α → β) {s : S} (hm : m.Obeys L s) :
    (m >>= fun a => Pure.pure (f a)).Obeys L s :=
  bind hm fun a t _ _ _ => pure (f a) t

/-- What the law says about an attempt that succeeds. -/
lemma ok_of_eq {m : Attempt ω S α} {s t : S} {a : α} {js : List ω} (hm : m.Obeys L s)
    (h : m s = ⟨.ok a, t, js⟩) : L.ok s js t := by
  rw [Obeys, h] at hm
  exact hm

end Obeys

/-- Where a law asks the same of success and of failure, only what an attempt leaves behind is of
interest. -/
lemma obeys_iff_ok {m : Attempt ω S α} {s : S} (h : ∀ failure, L.err failure s = L.ok s) :
    m.Obeys L s ↔ L.ok s (m s).journal (m s).state := by
  unfold Obeys
  rcases m s with ⟨failure | a, t, js⟩
  · rw [Law.Allows, h]
  · exact Iff.rfl

/-- To keep a property is to have it in the end, however the attempt ends. -/
lemma obeys_keeping_iff {P : S → Prop} {m : Attempt ω S α} {s : S} :
    m.Obeys (.keeping P) s ↔ (P s → P (m s).state) := obeys_iff_ok fun _ => rfl

lemma Obeys.keeps {P : S → Prop} {m : Attempt ω S α} {s : S} (hm : m.Obeys (.keeping P) s)
    (hs : P s) : P (m s).state := obeys_keeping_iff.mp hm hs

end Attempt

end SetupWizard
