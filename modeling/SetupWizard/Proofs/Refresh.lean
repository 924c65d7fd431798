/-
# What a refresh leaves alone

A refresh changes no condition, no hold, and no variable that is under one: whatever the
derivations ask for, the value of a blocked variable stays.
-/
import Mathlib.Tactic.Lemma
import SetupWizard.Environment

namespace SetupWizard

namespace Store

/-- The holds are the same, and so are the values of the variables under them. -/
structure Respects (s s' : Store) : Prop where
  holds : s'.holds = s.holds
  get? (n : String) : s.isBlocked n = true → s'.get? n = s.get? n

lemma Respects.isBlocked {s s' : Store} (h : s.Respects s') (n : String) :
    s'.isBlocked n = s.isBlocked n := by
  rw [Store.isBlocked, Store.isBlocked, h.holds]

lemma Respects.refl (s : Store) : s.Respects s := ⟨rfl, fun _ _ => rfl⟩

lemma Respects.trans {s s' s'' : Store} (h : s.Respects s') (h' : s'.Respects s'') :
    s.Respects s'' := by
  refine ⟨h'.holds.trans h.holds, fun n hn => ?_⟩
  rw [h'.get? n (h.isBlocked n ▸ hn), h.get? n hn]

lemma respects_set {s : Store} {name : String} (h : s.isBlocked name = false) (value : String) :
    s.Respects (s.set name value) := by
  refine ⟨holds_set .., fun n hn => (get?_set ..).trans (if_neg ?_)⟩
  rintro rfl
  exact Bool.false_ne_true (h.symm.trans hn)

lemma respects_unset {s : Store} {name : String} (h : s.isBlocked name = false) :
    s.Respects (s.unset name) := by
  refine ⟨holds_unset .., fun n hn => (get?_unset ..).trans (if_neg ?_)⟩
  rintro rfl
  exact Bool.false_ne_true (h.symm.trans hn)

/-- Whatever is done step by step respects the holds as soon as each step does. -/
lemma respects_foldl {α : Type} {f : Store → α → Store} (h : ∀ (s : Store) a, s.Respects (f s a))
    (as : List α) (s : Store) : s.Respects (as.foldl f s) := by
  induction as generalizing s with
  | nil => exact .refl s
  | cons a as ih => exact (h s a).trans (ih _)

end Store

namespace Derivation.Requests

lemma respects_unsetOne (requests : Requests) (store : Store) (name : String) :
    store.Respects (requests.unsetOne store name) := by
  unfold unsetOne
  split
  · exact .refl store
  · split
    · exact .refl store
    · exact Store.respects_unset (Bool.eq_false_iff.mpr ‹_›)

lemma respects_setOne (store : Store) (name value : String) :
    store.Respects (setOne store name value) := by
  unfold setOne
  split
  · exact .refl store
  · exact Store.respects_set (Bool.eq_false_iff.mpr ‹_›) value

lemma respects_unsetAll (requests : Requests) (store : Store) :
    store.Respects (requests.unsetAll store) :=
  Store.respects_foldl requests.respects_unsetOne _ store

lemma respects_setAll (requests : Requests) (store : Store) :
    store.Respects (requests.setAll store) :=
  Store.respects_foldl
    (fun s (entry : String × String) => respects_setOne s entry.1 entry.2) _ store

lemma respects_apply (requests : Requests) (store : Store) :
    store.Respects (requests.apply store) :=
  (requests.respects_unsetAll store).trans (requests.respects_setAll _)

end Derivation.Requests

/-- A refresh does not touch the conditions. -/
lemma Environment.conditions_of_refresh {env env' : Environment} (h : env.refresh = .ok env') :
    env'.conditions = env.conditions := by
  rw [refresh_eq] at h
  split at h
  · cases h
    rfl
  · cases h

/-- **A refresh respects the holds.** -/
lemma Environment.respects_of_refresh {env env' : Environment} (h : env.refresh = .ok env') :
    env.store.Respects env'.store := by
  rw [refresh_eq, Derivation.refresh_eq] at h
  cases hverdicts : Derivation.verdicts env.conditions env.evaluate env.store env.derivations with
  | error e =>
    rw [hverdicts] at h
    cases h
  | ok vs =>
    rw [hverdicts] at h
    cases h
    exact Derivation.Requests.respects_apply _ env.store

end SetupWizard
