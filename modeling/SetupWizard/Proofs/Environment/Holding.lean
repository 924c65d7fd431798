/-
# Holds in a history

A variable is blocked as long as one of those who have put a hold on it has not lifted it again.
Whoever else puts or lifts holds meanwhile makes no difference, nor does a second hold of the same
holder: it is lifted together with the first.  Passes change no hold, and they leave a blocked
variable as it is, whether they succeed or fail (`blocked_of_history`).

Underneath, each variable that is held has the set of its holders, and whether a variable is blocked
is read off from its having such a set.  That this is right rests on an invariant, kept by all that
happens to a store: no set of holders is empty (`noneIdle_ofHistory`).
-/
import Mathlib.Tactic.Tauto
import SetupWizard.Proofs.Derivation.Meaning
import SetupWizard.Proofs.Environment.History

namespace SetupWizard

namespace Store

/-! ### Histories of a store -/

/-- The store after a pass over some derivations, or the same one if the pass fails. -/
def passed (store : Store) (conditions : Authority) (evaluate : Evaluator)
    (derivations : List Derivation) : Store :=
  let env : Environment := { store, derivations, conditions, evaluate }
  env.refreshed.store

/-- Something that happens to a store. -/
inductive Event where
  | set (name value : String)
  | unset (name : String)
  | extend (pairs : List (String × String))
  | block (name holder : String)
  | unblock (name holder : String)
  /-- Some derivations bring their variables up to date, judged by some authorities. -/
  | pass (conditions : Authority) (evaluate : Evaluator) (ds : List Derivation)

/-- The store after an event. -/
def Event.perform (event : Event) (store : Store) : Store :=
  match event with
  | .set name value => store.set name value
  | .unset name => store.unset name
  | .extend pairs => store.extend pairs
  | .block name holder => store.block name holder
  | .unblock name holder => store.unblock name holder
  | .pass conditions evaluate ds => store.passed conditions evaluate ds

/-- The store that a history leads to, from one with no variables and no holds. -/
def ofHistory (events : List Event) : Store :=
  events.foldl (fun store event => event.perform store) ∅

variable {store : Store} {event : Event} {events : List Event} {n holder : String}

lemma ofHistory_concat (events : List Event) (event : Event) :
    ofHistory (events ++ [event]) = event.perform (ofHistory events) := by
  simp [ofHistory]

/-! ### Who holds a variable -/

lemma respects_passed (store : Store) (conditions : Authority) (evaluate : Evaluator)
    (ds : List Derivation) : store.Respects (store.passed conditions evaluate ds) :=
  Environment.respects_refreshed { store, derivations := ds, conditions, evaluate }

/-- The last change of a holder's hold on a variable was to put it there. -/
def Holding (events : List Event) (n holder : String) : Prop :=
  ∃ earlier later, events = earlier ++ .block n holder :: later ∧
    ∀ event ∈ later, event ≠ .block n holder ∧ event ≠ .unblock n holder

lemma not_holding_nil : ¬Holding [] n holder := by
  rintro ⟨earlier, later, h, -⟩
  simp at h

lemma holding_concat_iff :
    Holding (events ++ [event]) n holder ↔ event = .block n holder ∨
      ((event ≠ .block n holder ∧ event ≠ .unblock n holder) ∧ Holding events n holder) := by
  have h := Derivation.exists_split_concat_iff (P := (· = .block n holder))
    (Q := fun event => event ≠ .block n holder ∧ event ≠ .unblock n holder)
    (l := events) (a := event)
  simpa [Holding] using h

/-- What an event does to a hold. -/
lemma mem_holders_perform :
    holder ∈ (event.perform store).holders n ↔ event = .block n holder ∨
      ((event ≠ .block n holder ∧ event ≠ .unblock n holder) ∧ holder ∈ store.holders n) := by
  have hsame {store' : Store} (h : store'.holds = store.holds) :
      store'.holders n = store.holders n := by
    rw [holders, holders, h]
  cases event with
  | set name value => simp [Event.perform, hsame (holds_set store name value)]
  | unset name => simp [Event.perform, hsame (holds_unset store name)]
  | extend pairs => simp [Event.perform, hsame (holds_extend pairs store)]
  | block name holder' =>
    simp only [Event.perform, mem_holders_block, Event.block.injEq, ne_eq, reduceCtorEq,
      not_false_eq_true, and_true]
    tauto
  | unblock name holder' => simp [Event.perform, mem_holders_unblock]
  | pass conditions evaluate ds =>
    simp [Event.perform, hsame (respects_passed store conditions evaluate ds).holds]

/-- The holders after a history are those who have not lifted their holds. -/
lemma mem_holders_ofHistory : holder ∈ (ofHistory events).holders n ↔ Holding events n holder := by
  induction events using List.reverseRecOn with
  | nil => exact iff_of_false Std.ExtTreeSet.not_mem_empty not_holding_nil
  | append_singleton events event ih =>
    rw [ofHistory_concat, mem_holders_perform, ih, holding_concat_iff]

/-! ### No set of holders is empty -/

lemma NoneIdle.of_holds {store' : Store} (hs : store.NoneIdle) (h : store'.holds = store.holds) :
    store'.NoneIdle := by
  intro m holders hm
  exact hs m holders (h ▸ hm)

/-- Whatever happens to a store, no set of holders is left empty. -/
lemma NoneIdle.perform (hs : store.NoneIdle) (event : Event) : (event.perform store).NoneIdle := by
  cases event with
  | set name value => exact hs.of_holds (holds_set store name value)
  | unset name => exact hs.of_holds (holds_unset store name)
  | extend pairs => exact hs.of_holds (holds_extend pairs store)
  | block name holder => exact hs.block name holder
  | unblock name holder => exact hs.unblock name holder
  | pass conditions evaluate ds =>
    exact hs.of_holds (respects_passed store conditions evaluate ds).holds

lemma noneIdle_ofHistory (events : List Event) : (ofHistory events).NoneIdle := by
  induction events using List.reverseRecOn with
  | nil => exact noneIdle_empty
  | append_singleton events event ih =>
    rw [ofHistory_concat]
    exact ih.perform event

/-! ### Main result -/

/-- **Holds in a history.**  After any events a variable is blocked if and only if some holder's
last change of its hold on the variable was to put it there.  Then, and only then, it has a set of
holders; this set is never empty, and it has those holders and no others.  While the variable is
blocked, no pass of any derivations changes whether it is set or its value. -/
theorem blocked_of_history (events : List Event) (n : String) :
    let store := ofHistory events
    (store.isBlocked n = true ↔ ∃ holder, Holding events n holder) ∧
    (store.isBlocked n = true ↔ ∃ holders, store.holds[n]? = some holders) ∧
    (∀ holders, store.holds[n]? = some holders →
      holders ≠ ∅ ∧ ∀ holder, holder ∈ holders ↔ Holding events n holder) ∧
    (store.isBlocked n = true → ∀ conditions evaluate ds,
      (store.passed conditions evaluate ds).get? n = store.get? n) := by
  intro store
  have hnoneIdle : store.NoneIdle := noneIdle_ofHistory events
  refine ⟨?_, ?_, fun holders hn => ⟨hnoneIdle n holders hn, fun holder => ?_⟩,
    fun hblocked conditions evaluate ds =>
      (respects_passed store conditions evaluate ds).get? n hblocked⟩
  · simp only [hnoneIdle.isBlocked_iff, store, mem_holders_ofHistory]
  · rw [isBlocked_eq_isSome, Option.isSome_iff_exists]
  · have hholders : store.holders n = holders := by rw [holders_eq_getD, hn, Option.getD_some]
    rw [← mem_holders_ofHistory, ← hholders]

/-- Two holders, one of which has put its hold twice and lifted it once: the other hold is left, and
a pass that has another value for the variable does not change it. -/
theorem blocked_of_twoHolders :
    let pass : Event := .pass (fun _ _ => true) (fun expression _ => .ok (some expression))
      [{ name := "N", expression := "derived" }]
    let events : List Event := [.block "N" "first", .set "N" "entered", .block "N" "second",
      .block "N" "first", pass, .unblock "N" "first"]
    let store := ofHistory events
    (∃ holder, Holding events "N" holder) ∧
      (∃ holders, store.holds["N"]? = some holders) ∧
      (pass.perform store).get? "N" = some "entered" := by
  intro pass events store
  have hblocked : store.isBlocked "N" = true := by decide +kernel
  have hentered : store.get? "N" = some "entered" := by decide +kernel
  obtain ⟨hholding, hentry, -, hkept⟩ := blocked_of_history events "N"
  exact ⟨hholding.mp hblocked, hentry.mp hblocked, (hkept hblocked _ _ _).trans hentered⟩

end Store

end SetupWizard
