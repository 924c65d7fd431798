/-
# What a condition means

Without a limit for chains of references, a condition has a truth value by recursion over the
conditions that it refers to, provided that this recursion ends.  A table follows such a chain for a
limited number of steps only.  Where no chain of references from a condition has more steps, the
table's answer is its truth value: `isTruth_iff_holds`.

The truth values are given by a relation here, since in a table whose conditions refer to each other
in a circle there need not be any.
-/
import SetupWizard.Proofs.Condition.Consulted

namespace SetupWizard

namespace Condition

variable {cs : List Condition} {c : Condition} {store : Store} {values values' : String → Bool}
  {id id' : String} {b b' : Bool} {steps depth : Nat}

/-! ### Truth values -/

/-- The references in use: those to conditions that must all hold, if there are any. -/
def used (c : Condition) : List String :=
  if c.all.isEmpty then c.any else c.all

/-- What a condition says about the variables and about the conditions that it refers to, before it
is inverted. -/
def body (c : Condition) (store : Store) (values : String → Bool) : Bool :=
  let value? := c.subject?.bind store.get?
  if !c.all.isEmpty then c.all.all values
  else if !c.any.isEmpty then c.any.any values
  else if let some value := c.equals? then value? == some value
  else if let some value := c.differs? then value? != some value
  else if let some expected := c.defined? then value?.isSome == expected
  else false

/-- The condition that counts among several with the same id: the last one. -/
def declared? (cs : List Condition) (id : String) : Option Condition :=
  cs.reverse.find? fun c => c.id == id

/-- The truth values of conditions.  An unknown condition is false. -/
inductive IsTruth (cs : List Condition) (store : Store) : String → Bool → Prop
  | unknown {id : String} : declared? cs id = none → IsTruth cs store id false
  | known {id : String} {c : Condition} {values : String → Bool} : declared? cs id = some c →
      (∀ next ∈ c.used, IsTruth cs store next (values next)) →
      IsTruth cs store id (c.negate ^^ c.body store values)

/-- A chain of so many references in use leads from the first id to the second. -/
inductive Chain (cs : List Condition) : Nat → String → String → Prop
  | nil (id : String) : Chain cs 0 id id
  | cons {steps : Nat} {id next id' : String} {c : Condition} : declared? cs id = some c →
      next ∈ c.used → Chain cs steps next id' → Chain cs (steps + 1) id id'

/-! ### The table's test and its meaning -/

lemma references_test (c : Condition) : c.test.references = c.used := by
  rw [test, used]
  split <;> simp_all [Test.references]

lemma answer_test (c : Condition) (store : Store) (values : String → Bool) :
    c.test.answer (c.subject?.bind store.get?) values = c.body store values := by
  rw [test, body]
  split <;> simp_all [Test.answer]

lemma answer_eq_xor_body (c : Condition) (store : Store) (values : String → Bool) :
    c.answer store values = (c.negate ^^ c.body store values) := by
  rw [answer, answer_test, Bool.xor_comm]

lemma body_congr (h : ∀ next ∈ c.used, values' next = values next) :
    c.body store values' = c.body store values := by
  rw [← references_test] at h
  rw [← answer_test, ← answer_test, Test.answer_congr h]

lemma body_of_all (h : c.all ≠ []) : c.body store values = c.all.all values := by
  simp [body, h]

lemma body_of_any (hall : c.all = []) (hany : c.any ≠ []) :
    c.body store values = c.any.any values := by
  simp [body, hall, hany]

/-- What a condition without references says depends on the variables only. -/
lemma body_of_leaf (hall : c.all = []) (hany : c.any = []) :
    c.body store values = c.body store values' :=
  body_congr (by simp [used, hall, hany])

/-- A condition has at most one truth value. -/
lemma IsTruth.unique (h : IsTruth cs store id b) (h' : IsTruth cs store id b') : b' = b := by
  induction h generalizing b' with
  | unknown hid =>
    cases h' with
    | unknown => rfl
    | known hc => cases hid.symm.trans hc
  | known hc _ ih =>
    cases h' with
    | unknown hid => cases hid.symm.trans hc
    | known hc' hvalues' =>
      obtain rfl := Option.some.inj (hc.symm.trans hc')
      rw [body_congr fun next hnext => ih next hnext (hvalues' next hnext)]

/-- Where all chains to known conditions have fewer steps than are followed, the answer of the table
is a truth value. -/
lemma isTruth_holdsWithin
    (h : ∀ steps id', Chain cs steps id id' → (declared? cs id').isSome → steps < depth) :
    IsTruth cs store id ((ConditionTable.ofConditions cs).holdsWithin store depth id) := by
  induction depth generalizing id with
  | zero =>
    have hid : declared? cs id = none := by
      by_contra hknown
      exact absurd (h 0 id (.nil id) (Option.isSome_iff_ne_none.mpr hknown)) (Nat.not_lt_zero 0)
    exact .unknown hid
  | succ depth ih =>
    have htable : (ConditionTable.ofConditions cs)[id]? = declared? cs id :=
      ConditionTable.getElem?_ofConditions cs id
    cases hc : declared? cs id with
    | none =>
      rw [ConditionTable.holdsWithin_of_absent (htable.trans hc)]
      exact .unknown hc
    | some c =>
      rw [ConditionTable.holdsWithin_of_present (htable.trans hc), answer_eq_xor_body]
      refine .known hc fun next hnext => ih fun steps id' hchain hknown => ?_
      exact Nat.lt_of_succ_lt_succ (h (steps + 1) id' (.cons hc hnext hchain) hknown)

/-- References that lead from higher to lower ranks form chains no longer than the rank. -/
lemma Chain.add_rank_le (rank : String → Nat)
    (hrank : ∀ c ∈ cs, ∀ next ∈ c.used, rank next < rank c.id) (h : Chain cs steps id id') :
    steps + rank id' ≤ rank id := by
  induction h with
  | nil id => simp
  | @cons steps id next id' c hc hnext _ ih =>
    have hmem : c ∈ cs := List.mem_reverse.mp (List.mem_of_find?_eq_some hc)
    have hid : c.id = id := by simpa using List.find?_some hc
    have hlower := hrank c hmem next hnext
    rw [hid] at hlower
    omega

/-! ### Main result -/

/-- **A table answers what its conditions mean.**  Whatever conditions are put into a table, if each
chain of references in use that leads from a condition to a known one has at most 32 steps, then the
condition has exactly one truth value on each store, and this is the answer of the table. -/
theorem isTruth_iff_holds (cs : List Condition) (store : Store) (id : String)
    (h : ∀ steps id', Chain cs steps id id' → (declared? cs id').isSome → steps ≤ 32) (b : Bool) :
    IsTruth cs store id b ↔ (ConditionTable.ofConditions cs).holds id store = b := by
  have htruth : IsTruth cs store id ((ConditionTable.ofConditions cs).holds id store) :=
    isTruth_holdsWithin fun steps id' hchain hknown => Nat.lt_succ_of_le (h steps id' hchain hknown)
  constructor
  · exact fun hb => hb.unique htruth
  · rintro rfl
    exact htruth

/-- The id of a condition with a number. -/
def rung (k : Nat) : String := String.singleton (Char.ofNat (k + 65))

/-- Conditions of which each is the opposite of the one before; the first, which was put in twice,
asks whether a variable is set. -/
def ladder : List Condition :=
  .equals (rung 0) "X" "0" :: (List.range 33).map fun k =>
    { id := rung k, subject? := some "X", defined? := some true,
      any := if k = 0 then [] else [rung (k - 1)], negate := k ≠ 0 }

/-- The last of these conditions is true if the variable is set. -/
theorem isTruth_of_ladder :
    (∀ steps id', Chain ladder steps (rung 32) id' → (declared? ladder id').isSome → steps ≤ 32) ∧
      IsTruth ladder (.ofList [("X", "1")]) (rung 32) true := by
  let rank (id : String) : Nat := id.front.toNat - 65
  have hrank : ∀ c ∈ ladder, ∀ next ∈ c.used, rank next < rank c.id := by decide +kernel
  have hlast : rank (rung 32) = 32 := by decide +kernel
  have hshort (steps : Nat) (id' : String) (hchain : Chain ladder steps (rung 32) id')
      (_ : (declared? ladder id').isSome) : steps ≤ 32 := by
    have hsum := hchain.add_rank_le rank hrank
    omega
  exact ⟨hshort, (isTruth_iff_holds ladder _ (rung 32) hshort true).mpr (by decide +kernel)⟩

end Condition

end SetupWizard
