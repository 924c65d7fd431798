/-
# What a replay gives and records

A view that replays a record puts the data of its panel into the store and holds it there, and
what it records are the same variables with the values that they have in the end.  This file says
what becomes of single variables in these operations, and which data a panel gets from a record.
-/
import Mathlib.Data.List.Induction
import Mathlib.Tactic.Lemma
import SetupWizard.Replay

namespace SetupWizard.Replay

/-! ### Texts -/

lemma contains_map_fst_toList (data : Texts) (n : String) :
    (data.toList.map Prod.fst).contains n = data.contains n := by
  rw [Std.ExtTreeMap.map_fst_toList_eq_keys, Std.ExtTreeMap.contains_keys]

/-- Texts that are added to others win over them. -/
lemma getElem?_merge (old new : Texts) (n : String) :
    (merge old new)[n]? = new[n]?.or old[n]? := by
  unfold merge
  cases h : new[n]? with
  | some value =>
    have hmem : (n, value) ∈ new.toList := Std.ExtTreeMap.mem_toList_iff_getElem?_eq_some.mpr h
    exact Std.ExtTreeMap.getElem?_insertMany_list_of_mem Std.ReflCmp.compare_self
      Std.ExtTreeMap.distinct_keys_toList hmem
  | none =>
    have habsent : (new.toList.map Prod.fst).contains n = false := by
      rw [contains_map_fst_toList, Std.ExtTreeMap.contains_eq_isSome_getElem?, h]
      rfl
    exact Std.ExtTreeMap.getElem?_insertMany_list_of_contains_eq_false habsent

/-- The pair of a variable and its value in a store, if it has one. -/
lemma mem_currentPairs {data : Texts} {store : Store} {n value : String} :
    (n, value) ∈ (data.keys.filterMap fun name => (store.get? name).map fun v => (name, v)) ↔
      n ∈ data ∧ store.get? n = some value := by
  rw [List.mem_filterMap]
  constructor
  · rintro ⟨name, hname, h⟩
    obtain ⟨v, hv, hpair⟩ := Option.map_eq_some_iff.mp h
    cases hpair
    exact ⟨Std.ExtTreeMap.mem_keys.mp hname, hv⟩
  · rintro ⟨hn, hvalue⟩
    exact ⟨n, Std.ExtTreeMap.mem_keys.mpr hn, by rw [hvalue]; rfl⟩

lemma distinct_currentPairs (data : Texts) (store : Store) :
    (data.keys.filterMap fun name => (store.get? name).map fun v => (name, v)).Pairwise
      fun a b => ¬compare a.1 b.1 = .eq := by
  refine List.pairwise_filterMap.mpr (Std.ExtTreeMap.distinct_keys.imp fun {m n} hne => ?_)
  intro a ha b hb
  obtain ⟨_, -, rfl⟩ := Option.map_eq_some_iff.mp ha
  obtain ⟨_, -, rfl⟩ := Option.map_eq_some_iff.mp hb
  exact hne

/-- The values that the variables of the data have in a store. -/
lemma getElem?_currentValues (data : Texts) (store : Store) (n : String) :
    (currentValues data store)[n]? = data[n]?.bind fun _ => store.get? n := by
  have habsent (h : ∀ value, ¬(n ∈ data ∧ store.get? n = some value)) :
      (currentValues data store)[n]? = none := by
    refine Std.ExtTreeMap.getElem?_ofList_of_contains_eq_false ?_
    refine Bool.eq_false_iff.mpr fun hn => ?_
    rw [List.contains_iff_mem] at hn
    obtain ⟨⟨_, value⟩, hmem, rfl⟩ := List.mem_map.mp hn
    exact h value (mem_currentPairs.mp hmem)
  cases hdata : data[n]? with
  | none =>
    refine habsent fun value h => ?_
    have hsome := Std.ExtTreeMap.mem_iff_isSome_getElem?.mp h.1
    rw [hdata] at hsome
    cases hsome
  | some old =>
    rw [Option.bind_some]
    cases hstore : store.get? n with
    | none =>
      refine habsent fun value h => ?_
      rw [hstore] at h
      cases h.2
    | some value =>
      have hn : n ∈ data := by
        rw [Std.ExtTreeMap.mem_iff_isSome_getElem?, hdata]
        rfl
      exact Std.ExtTreeMap.getElem?_ofList_of_mem Std.ReflCmp.compare_self
        (distinct_currentPairs data store) (mem_currentPairs.mpr ⟨hn, hstore⟩)

/-- To look up the current values once more changes nothing. -/
lemma currentValues_currentValues (data : Texts) (store : Store) :
    currentValues (currentValues data store) store = currentValues data store := by
  refine Std.ExtTreeMap.ext_getElem? fun {n} => ?_
  rw [getElem?_currentValues, getElem?_currentValues]
  cases data[n]? with
  | none => rfl
  | some value => cases store.get? n <;> rfl

/-! ### Giving -/

lemma values_give (pairs : List (String × String)) (holder : String) (store : Store) :
    (give pairs holder store).values = store.values.insertMany pairs := by
  induction pairs generalizing store with
  | nil => exact Std.ExtTreeMap.insertMany_nil.symm
  | cons pair pairs ih =>
    rw [Std.ExtTreeMap.insertMany_cons]
    exact ih ((store.set pair.1 pair.2).block pair.1 holder)

/-- The data that is given wins over what a store has. -/
lemma get?_give (data : Texts) (holder : String) (store : Store) (n : String) :
    (give data.toList holder store).get? n = data[n]?.or (store.get? n) := by
  rw [Store.get?, values_give]
  exact getElem?_merge store.values data n

lemma isBlocked_give_list (pairs : List (String × String)) (holder : String) (store : Store)
    (n : String) : (give pairs holder store).isBlocked n =
      ((pairs.map Prod.fst).contains n || store.isBlocked n) := by
  induction pairs generalizing store with
  | nil => rfl
  | cons pair pairs ih =>
    refine (ih ((store.set pair.1 pair.2).block pair.1 holder)).trans ?_
    rw [Store.isBlocked_block, Store.isBlocked_set, List.map_cons, List.contains_cons,
      Bool.or_left_comm, Bool.or_assoc, BEq.comm]

/-- What is given is held. -/
lemma isBlocked_give (data : Texts) (holder : String) (store : Store) (n : String) :
    (give data.toList holder store).isBlocked n = (data.contains n || store.isBlocked n) := by
  rw [isBlocked_give_list, contains_map_fst_toList]

/-! ### Answers -/

lemma answersOf_append_singleton (records : List PanelRecord) (r : PanelRecord) (id : String) :
    answersOf (records ++ [r]) id =
      if r.panel = id then merge (answersOf records id) r.data else answersOf records id := by
  rw [answersOf, answers, List.foldl_append, List.foldl_cons, List.foldl_nil,
    Std.ExtTreeMap.getD_insert]
  by_cases h : r.panel = id
  · subst h
    simp [answersOf, answers]
  · simp [h, answersOf, answers]

/-- Of the entries for a panel the last one that has a variable gives its value. -/
lemma getElem?_answersOf (records : List PanelRecord) (id n : String) :
    (answersOf records id)[n]? =
      records.reverse.findSome? fun r => if r.panel = id then r.data[n]? else none := by
  induction records using List.reverseRecOn with
  | nil => simp [answersOf, answers]
  | append_singleton records r ih =>
    rw [answersOf_append_singleton, List.reverse_append, List.reverse_singleton,
      List.singleton_append, List.findSome?_cons, ← ih]
    by_cases h : r.panel = id
    · rw [if_pos h, if_pos h, getElem?_merge]
      cases r.data[n]? <;> rfl
    · rw [if_neg h, if_neg h]

/-- A panel that is not in a record gets no data from it. -/
lemma answersOf_of_not_mem {records : List PanelRecord} {id : String}
    (h : id ∉ records.map PanelRecord.panel) : answersOf records id = ∅ := by
  induction records using List.reverseRecOn with
  | nil => exact Std.ExtTreeMap.getD_empty
  | append_singleton records r ih =>
    rw [List.map_append, List.mem_append, not_or] at h
    have hne : ¬r.panel = id := fun heq => h.2 (by simp [heq])
    rw [answersOf_append_singleton, if_neg hne, ih h.1]

/-- A panel that is in a record once gets its data from there. -/
lemma answersOf_of_mem {records : List PanelRecord} {r : PanelRecord}
    (hnodup : (records.map PanelRecord.panel).Nodup) (hr : r ∈ records) :
    answersOf records r.panel = r.data := by
  induction records using List.reverseRecOn with
  | nil => cases hr
  | append_singleton records r' ih =>
    rw [List.map_append, List.nodup_append] at hnodup
    obtain ⟨hinit, -, hlast⟩ := hnodup
    rw [answersOf_append_singleton]
    rcases List.mem_append.mp hr with hmem | hmem
    · have hpanel : r.panel ∈ records.map PanelRecord.panel := List.mem_map_of_mem hmem
      have hne : ¬r'.panel = r.panel := fun heq =>
        hlast r.panel hpanel r'.panel (by simp) heq.symm
      rw [if_neg hne, ih hinit hmem]
    · obtain rfl := List.mem_singleton.mp hmem
      have hfresh : r.panel ∉ records.map PanelRecord.panel := fun hpanel =>
        hlast r.panel hpanel r.panel (by simp) rfl
      rw [if_pos rfl, answersOf_of_not_mem hfresh]
      refine Std.ExtTreeMap.ext_getElem? fun {n} => ?_
      rw [getElem?_merge, Std.ExtTreeMap.getElem?_empty, Option.or_none]

end SetupWizard.Replay
