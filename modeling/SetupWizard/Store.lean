/-
# The variables of an installation

Every panel of a wizard reads and writes the same named texts.  A store holds them, together
with the holds that keep derived values away from a name: whoever wants a name left alone puts
a hold on it under a name of its own, and the name is blocked as long as one hold is left.

The holds are kept as a set of holders for each name.  A name is taken for blocked as soon as it
has such a set, so the set has to go with its last holder (`NoneIdle`).
-/
import Std.Data.ExtTreeMap
import Std.Data.ExtTreeSet

namespace SetupWizard

/-- Texts by name, in the order of the names. -/
abbrev Texts := Std.ExtTreeMap String String

/-- The holders of each variable that has some. -/
abbrev Holds := Std.ExtTreeMap String (Std.ExtTreeSet String)

/-- The variables of an installation and the holds on them. -/
structure Store where
  /-- The value of each variable that is set. -/
  values : Texts := ∅
  /-- The holds in force. -/
  holds : Holds := ∅
deriving DecidableEq

namespace Store

instance : EmptyCollection Store := ⟨{}⟩

instance : Inhabited Store := ⟨∅⟩

/-- The value of a variable. -/
def get? (store : Store) (name : String) : Option String := store.values[name]?

/-- Whether a variable is set. -/
def contains (store : Store) (name : String) : Bool := store.values.contains name

/-- Gives a variable a value. -/
def set (store : Store) (name value : String) : Store :=
  { store with values := store.values.insert name value }

/-- Takes the value of a variable away. -/
def unset (store : Store) (name : String) : Store :=
  { store with values := store.values.erase name }

/-- Sets several variables, the later ones last. -/
def extend (store : Store) (pairs : List (String × String)) : Store :=
  pairs.foldl (fun s pair => s.set pair.1 pair.2) store

/-- The store with the given variables and no holds. -/
def ofList (pairs : List (String × String)) : Store := (∅ : Store).extend pairs

/-- The number of variables that are set. -/
def size (store : Store) : Nat := store.values.size

/-- The variables that are set and their values, in the order of the names. -/
def toList (store : Store) : List (String × String) := store.values.toList

/-- Those who hold a variable. -/
def holders (store : Store) (name : String) : Std.ExtTreeSet String := store.holds.getD name ∅

/-- Puts the hold of `holder` on a variable. -/
def block (store : Store) (name holder : String) : Store :=
  { store with holds := store.holds.insert name ((store.holders name).insert holder) }

/-- Lifts the hold of `holder` from a variable. -/
def unblock (store : Store) (name holder : String) : Store :=
  match store.holds[name]? with
  | none => store
  | some holders =>
    let left := holders.erase holder
    { store with
      holds := if left.isEmpty then store.holds.erase name else store.holds.insert name left }

/-- Whether a variable has holders. -/
def isBlocked (store : Store) (name : String) : Bool := store.holds.contains name

/-! ### Reading back the values -/

@[simp] theorem get?_empty (n : String) : (∅ : Store).get? n = none :=
  Std.ExtTreeMap.getElem?_empty

theorem get?_set (s : Store) (n v m : String) :
    (s.set n v).get? m = if n = m then some v else s.get? m := by
  simp [get?, set, Std.ExtTreeMap.getElem?_insert]

@[simp] theorem get?_set_self (s : Store) (n v : String) : (s.set n v).get? n = some v := by
  simp [get?_set]

theorem get?_unset (s : Store) (n m : String) :
    (s.unset n).get? m = if n = m then none else s.get? m := by
  simp [get?, unset, Std.ExtTreeMap.getElem?_erase]

@[simp] theorem get?_block (s : Store) (n h m : String) : (s.block n h).get? m = s.get? m := rfl

@[simp] theorem get?_unblock (s : Store) (n h m : String) :
    (s.unblock n h).get? m = s.get? m := by
  unfold unblock
  split <;> rfl

/-! ### Reading back the holds -/

theorem isBlocked_eq_isSome (s : Store) (n : String) : s.isBlocked n = s.holds[n]?.isSome :=
  Std.ExtTreeMap.contains_eq_isSome_getElem?

@[simp] theorem holds_set (s : Store) (n v : String) : (s.set n v).holds = s.holds := rfl

@[simp] theorem holds_unset (s : Store) (n : String) : (s.unset n).holds = s.holds := rfl

@[simp] theorem isBlocked_set (s : Store) (n v m : String) :
    (s.set n v).isBlocked m = s.isBlocked m := rfl

@[simp] theorem isBlocked_unset (s : Store) (n m : String) :
    (s.unset n).isBlocked m = s.isBlocked m := rfl

theorem holders_eq_getD (s : Store) (n : String) : s.holders n = s.holds[n]?.getD ∅ :=
  Std.ExtTreeMap.getD_eq_getD_getElem?

theorem getElem?_holds_block (s : Store) (n h m : String) :
    (s.block n h).holds[m]? = if n = m then some ((s.holders m).insert h) else s.holds[m]? := by
  rw [block, Std.ExtTreeMap.getElem?_insert]
  by_cases hm : n = m <;> simp [hm]

theorem getElem?_holds_unblock (s : Store) (n h m : String) :
    (s.unblock n h).holds[m]? =
      if n = m then (s.holds[m]?.map (·.erase h)).filter (!·.isEmpty) else s.holds[m]? := by
  unfold unblock
  by_cases hm : n = m
  · subst hm
    cases hn : s.holds[n]? with
    | none => simp [hn]
    | some holders =>
      cases hleft : (holders.erase h).isEmpty <;> simp [hleft, Option.filter_some]
  · cases hn : s.holds[n]? with
    | none => simp [hm]
    | some holders =>
      cases hleft : (holders.erase h).isEmpty <;>
        simp [hleft, hm, Std.ExtTreeMap.getElem?_erase, Std.ExtTreeMap.getElem?_insert]

theorem mem_holders_block {s : Store} {n h m k : String} :
    k ∈ (s.block n h).holders m ↔ (n = m ∧ h = k) ∨ k ∈ s.holders m := by
  rw [holders_eq_getD, getElem?_holds_block]
  by_cases hm : n = m <;> simp [hm, holders_eq_getD, Std.ExtTreeSet.mem_insert]

theorem mem_holders_unblock {s : Store} {n h m k : String} :
    k ∈ (s.unblock n h).holders m ↔ ¬(n = m ∧ h = k) ∧ k ∈ s.holders m := by
  rw [holders_eq_getD, holders_eq_getD, getElem?_holds_unblock]
  by_cases hm : n = m
  · cases hn : s.holds[m]? with
    | none => simp [hm]
    | some holders =>
      cases hleft : (holders.erase h).isEmpty with
      | false => simp [hm, hleft, Option.filter_some, Std.ExtTreeSet.mem_erase]
      | true =>
        have hempty : holders.erase h = ∅ := Std.ExtTreeSet.isEmpty_iff.mp hleft
        have hk : k ∉ holders.erase h := hempty ▸ Std.ExtTreeSet.not_mem_empty
        simpa [hm, hleft, Option.filter_some, Std.ExtTreeSet.mem_erase] using hk
  · simp [hm]

@[simp] theorem isBlocked_block (s : Store) (n h m : String) :
    (s.block n h).isBlocked m = (n == m || s.isBlocked m) := by
  rw [isBlocked_eq_isSome, isBlocked_eq_isSome, getElem?_holds_block]
  by_cases hm : n = m <;> simp [hm]

theorem isBlocked_of_unblock {s : Store} {n h m : String}
    (hblocked : (s.unblock n h).isBlocked m = true) : s.isBlocked m = true := by
  rw [isBlocked_eq_isSome, getElem?_holds_unblock] at hblocked
  rw [isBlocked_eq_isSome]
  split at hblocked
  · cases hm : s.holds[m]? with
    | none => simp [hm] at hblocked
    | some holders => rfl
  · exact hblocked

/-- Stores that agree on every value and on the holds are equal. -/
theorem ext_get? {s t : Store} (values : ∀ n, s.get? n = t.get? n) (holds : s.holds = t.holds) :
    s = t := by
  obtain ⟨sv, sh⟩ := s
  obtain ⟨tv, th⟩ := t
  have hv : sv = tv := Std.ExtTreeMap.ext_getElem? values
  rw [hv, show sh = th from holds]

/-! ### No set of holders is empty -/

/-- No variable has a set of holders without a holder in it. -/
def NoneIdle (s : Store) : Prop :=
  ∀ (n : String) (holders : Std.ExtTreeSet String), s.holds[n]? = some holders → holders ≠ ∅

theorem noneIdle_empty : (∅ : Store).NoneIdle := by
  intro n holders h
  rw [show (∅ : Store).holds[n]? = none from Std.ExtTreeMap.getElem?_empty] at h
  cases h

theorem NoneIdle.block {s : Store} (hs : s.NoneIdle) (n h : String) : (s.block n h).NoneIdle := by
  intro m holders hm
  rw [getElem?_holds_block] at hm
  split at hm
  · rw [← Option.some.inj hm]
    exact Std.ExtTreeSet.insert_ne_empty
  · exact hs m holders hm

/-- A set of holders goes with its last holder. -/
theorem NoneIdle.unblock {s : Store} (hs : s.NoneIdle) (n h : String) :
    (s.unblock n h).NoneIdle := by
  intro m holders hm
  rw [getElem?_holds_unblock] at hm
  split at hm
  · obtain ⟨-, hleft⟩ := Option.filter_eq_some_iff.mp hm
    simpa using hleft
  · exact hs m holders hm

/-- Where no set of holders is empty, a variable is blocked exactly if it has a holder. -/
theorem NoneIdle.isBlocked_iff {s : Store} (hs : s.NoneIdle) {n : String} :
    s.isBlocked n = true ↔ ∃ h, h ∈ s.holders n := by
  rw [isBlocked_eq_isSome, holders_eq_getD]
  cases hn : s.holds[n]? with
  | none => simp
  | some holders => simpa [Std.ExtTreeSet.eq_empty_iff_forall_not_mem] using hs n holders hn

end Store

end SetupWizard
