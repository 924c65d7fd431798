/-
# What is read from documents

Whatever is read in a format has the properties that the parts of the format promise: if the items
of a list promise something, then so does the list for each of its items, and a record promises
for each field what the format and the default of the field do.

A definition that is read has no visited panels, since no document can mark a panel as visited
(`Definition.unvisited_of_load`).
-/
import Mathlib.Tactic.Lemma
import SetupWizard.Definition.Load

namespace SetupWizard

namespace Document

variable {α β : Type} {P : α → Prop} {Q : β → Prop}

/-- Whatever a reader takes off a source has a property. -/
def Reader.Promises (read : Reader α) (P : α → Prop) : Prop :=
  ∀ source a rest, read source = .ok (a, rest) → P a

namespace Reader.Promises

variable {read : Reader α}

lemma trivial (read : Reader α) : read.Promises fun _ => True := fun _ _ _ _ => True.intro

lemma map {f : α → β} (h : read.Promises P) (hf : ∀ a, P a → Q (f a)) :
    (Reader.map f read).Promises Q := by
  intro source b rest hread
  unfold Reader.map at hread
  cases hr : read source with
  | error fault =>
    rw [hr] at hread
    cases hread
  | ok result =>
    rw [hr] at hread
    cases hread
    exact hf _ (h source _ _ hr)

lemma afterColon (h : read.Promises P) : (Reader.afterColon read).Promises P := by
  intro source a rest hread
  unfold Reader.afterColon at hread
  split at hread
  · exact h _ a rest hread
  · cases hread
  · cases hread

/-- The same for a whole document. -/
lemma document (h : read.Promises P) {source : Source} {a : α}
    (hread : Reader.document read source = .ok a) : P a := by
  unfold Reader.document at hread
  split at hread
  · next a' rest hr =>
    split at hread
    · cases hread
      exact h source a rest hr
    · cases hread
  · cases hread

end Reader.Promises

/-! ### Lists and objects -/

lemma promises_elements {item : Reader α} (h : item.Promises P) (fuel : Nat) (first : Bool) :
    (elements item fuel first).Promises fun as => ∀ a ∈ as, P a := by
  induction fuel generalizing first with
  | zero =>
    intro source as rest hread
    cases hread
  | succ fuel ih =>
    intro source as rest hread
    have hcons {source rest rest' : Source} {a : α} {more : List α}
        (hitem : item source = .ok (a, rest))
        (hmore : elements item fuel false rest = .ok (more, rest')) : ∀ b ∈ a :: more, P b :=
      List.forall_mem_cons.mpr ⟨h _ _ _ hitem, ih false _ _ _ hmore⟩
    unfold elements at hread
    dsimp only at hread
    split at hread
    · cases hread
    · cases hread
      exact fun a ha => absurd ha List.not_mem_nil
    case' h_4 =>
      split at hread
      · cases hread
      · cases hread
    -- The first element comes at once, and any other behind its comma.
    iterate 2
      split at hread
      · cases hread
      · next hitem =>
        split at hread
        · cases hread
        · next hmore =>
          cases hread
          exact hcons hitem hmore
    cases hread

lemma promises_list {format : Format α} (h : format.read.Promises P) :
    (Format.list format).read.Promises fun as => ∀ a ∈ as, P a := by
  intro source as rest hread
  unfold Format.list at hread
  dsimp only at hread
  split at hread
  · exact promises_elements h _ true _ _ _ hread
  · unfold unsuitable at hread
    split at hread <;> cases hread

/-- What is gathered from the entries of an object has a property that it has at the beginning and
keeps with each entry. -/
lemma promises_entries {σ : Type} {I : σ → Prop} {entry : String → σ → Reader σ}
    (hentry : ∀ key gathered, I gathered → (entry key gathered).Promises I) (fuel : Nat)
    (first : Bool) {gathered : σ} (hgathered : I gathered) :
    (entries entry fuel first gathered).Promises I := by
  induction fuel generalizing first gathered with
  | zero =>
    intro source result rest hread
    cases hread
  | succ fuel ih =>
    intro source result rest hread
    unfold entries at hread
    dsimp only at hread
    split at hread
    · cases hread
    · cases hread
      exact hgathered
    -- The first entry is a key with its value, and so is any other behind its comma.
    iterate 2
      split at hread
      · split at hread
        · cases hread
        · split at hread
          · cases hread
          · next hread' => exact ih false (hentry _ _ hgathered _ _ _ hread') _ _ _ hread
      · cases hread
      · cases hread
    cases hread

/-! ### Records -/

/-- A property for each field of a record. -/
inductive Demands : List Type → Type 1 where
  /-- No more fields. -/
  | done : Demands []
  /-- The property for a field, and those for the fields behind it. -/
  | field {α : Type} {types : List Type} (P : α → Prop) (more : Demands types) :
      Demands (α :: types)

namespace Demands

/-- The values of all fields have the properties. -/
def Row {types : List Type} : Demands types → Document.Row types → Prop
  | .done, _ => True
  | .field P more, (a, row) => P a ∧ more.Row row

/-- The values that have been read have the properties. -/
def Draft {types : List Type} : Demands types → Document.Draft types → Prop
  | .done, _ => True
  | .field P more, (given, draft) => (∀ a, given = some a → P a) ∧ more.Draft draft

/-- The formats and the defaults of all fields promise the properties. -/
def Fields {types : List Type} : Demands types → Document.Fields types → Prop
  | .done, .done => True
  | .field P more, .field _ format default? fields =>
    format.read.Promises P ∧ (∀ a, default? = some a → P a) ∧ more.Fields fields

end Demands

namespace Fields

variable {types : List Type} {demands : Demands types} {fields : Fields types}
  {draft : Draft types}

lemma draft_blank (demands : Demands types) (fields : Fields types) :
    demands.Draft fields.blank := by
  induction demands with
  | done => exact True.intro
  | field P more ih =>
    cases fields with
    | field name format default? fields => exact ⟨fun _ ha => (by cases ha), ih fields⟩

section Field

variable (name : String) (format : Format α) (default? : Option α) (fields : Fields types)
  (given : Option α) (draft : Draft types)

lemma offer_field (key : String) :
    offer key (.field name format default? fields) ((given, draft) : Draft (α :: types)) =
      if key = name then
        if given.isSome then .repeated
        else .fresh (Reader.map (fun a => (some a, draft)) format.read)
      else (fields.offer key draft).map fun draft => (given, draft) := by
  cases given <;> rfl

end Field

/-- A field that has not been given before is read in its format. -/
lemma promises_of_offer (hfields : demands.Fields fields) (hdraft : demands.Draft draft)
    {key : String} {read : Reader (Draft types)} (hoffer : fields.offer key draft = .fresh read) :
    read.Promises demands.Draft := by
  induction demands with
  | done =>
    cases fields with
    | done => cases hoffer
  | field P more ih =>
    cases fields with
    | field name format default? fields =>
      obtain ⟨given, draft⟩ := draft
      obtain ⟨hformat, -, hmore⟩ := hfields
      obtain ⟨hgiven, hrest⟩ := hdraft
      have hfield := (offer_field name format default? fields given draft key).symm.trans hoffer
      split at hfield
      · split at hfield
        · cases hfield
        · cases hfield
          exact hformat.map fun a ha => ⟨fun b hb => Option.some.inj hb ▸ ha, hrest⟩
      · cases hinner : fields.offer key draft with
        | unknown =>
          rw [hinner] at hfield
          cases hfield
        | repeated =>
          rw [hinner] at hfield
          cases hfield
        | fresh read' =>
          rw [hinner] at hfield
          cases hfield
          exact (ih hmore hrest hinner).map fun draft' hdraft' => ⟨hgiven, hdraft'⟩

lemma promises_readEntry (hfields : demands.Fields fields) (hdraft : demands.Draft draft)
    (key : String) : (fields.readEntry key draft).Promises demands.Draft := by
  unfold readEntry
  split
  · -- A field that means nothing here leaves everything as it is.
    refine Reader.Promises.afterColon fun source draft' rest hread => ?_
    split at hread
    · cases hread
      exact hdraft
    · cases hread
  · intro source draft' rest hread
    cases hread
  · next read hoffer => exact (promises_of_offer hfields hdraft hoffer).afterColon

lemma row_of_finish (hfields : demands.Fields fields) (hdraft : demands.Draft draft)
    {row : Row types} (h : fields.finish draft = .ok row) : demands.Row row := by
  induction demands with
  | done => exact True.intro
  | field P more ih =>
    cases fields with
    | field name format default? fields =>
      obtain ⟨given, draft⟩ := draft
      obtain ⟨-, hdefault, hmore⟩ := hfields
      obtain ⟨hgiven, hrest⟩ := hdraft
      change finish (.field name format default? fields) ((given, draft) : Draft (_ :: _)) = _ at h
      rw [finish] at h
      split at h
      · cases h
      · next a hvalue =>
        split at h
        · next row' hrow =>
          cases h
          refine ⟨?_, ih hmore hrest hrow⟩
          rcases Option.or_eq_some_iff.mp hvalue with ha | ⟨-, ha⟩
          · exact hgiven a ha
          · exact hdefault a ha
        · cases h

lemma promises_readObject (hfields : demands.Fields fields) :
    fields.readObject.Promises demands.Row := by
  intro source row rest hread
  unfold readObject at hread
  split at hread
  · cases hread
  · next draft rest' hentries =>
    have hdraft : demands.Draft draft :=
      promises_entries (fun key draft hdraft => promises_readEntry hfields hdraft key) _ true
        (draft_blank demands fields) _ _ _ hentries
    split at hread
    · next row' hrow =>
      cases hread
      exact row_of_finish hfields hdraft hrow
    · cases hread

lemma promises_readElements (wanted : String) (hfields : demands.Fields fields) (known : Nat) :
    (fields.readElements wanted known).Promises demands.Row := by
  induction demands generalizing known with
  | done => exact fun _ _ _ _ => True.intro
  | field P more ih =>
    cases fields with
    | field name format default? fields =>
      obtain ⟨hformat, hdefault, hmore⟩ := hfields
      intro source row rest hread
      have hmap {a : _} (ha : P a) (known : Nat) :
          (Reader.map (fun row => ((a, row) : Row (_ :: _)))
            (readElements wanted fields known)).Promises (Demands.field P more).Row :=
        (ih hmore known).map fun row hrow => ⟨ha, hrow⟩
      rw [readElements] at hread
      dsimp only at hread
      split at hread
      · cases hread
      · split at hread
        · cases hread
        · next a => exact hmap (hdefault a rfl) _ _ _ _ hread
      case' h_4 =>
        split at hread
        · cases hread
        · cases hread
      -- The first element comes at once, and any other behind its comma.
      iterate 2
        split at hread
        · cases hread
        · next hitem => exact hmap (hformat _ _ _ hitem) _ _ _ _ hread
      cases hread

end Fields

/-- **A record has in each field what the field promises.** -/
lemma promises_record {types : List Type} (demands : Demands types) {fields : Fields types}
    (name : String) (hfields : demands.Fields fields) :
    (Format.record name fields).read.Promises demands.Row := by
  intro source row rest hread
  unfold Format.record at hread
  dsimp only at hread
  split at hread
  · exact Fields.promises_readObject hfields _ _ _ hread
  · exact Fields.promises_readElements _ hfields 0 _ _ _ hread
  · unfold unsuitable at hread
    split at hread <;> cases hread

end Document

open Document

/-- No document can mark a panel as visited. -/
lemma Panel.promises_format : Panel.format.read.Promises fun p => p.visited = false :=
  (Reader.Promises.trivial _).map fun _ _ => rfl

namespace Definition

/-- What is asked of the fields of a definition: that no panel is visited. -/
def demands :
    Demands [Texts, List Condition, List Derivation, List Requirement, List Panel] :=
  .field (fun _ => True) <| .field (fun _ => True) <| .field (fun _ => True) <|
    .field (fun _ => True) <| .field (fun panels => ∀ p ∈ panels, p.visited = false) .done

lemma promises_format : format.read.Promises fun d => ∀ p ∈ d.panels, p.visited = false := by
  have hpanels : (Format.list Panel.format).read.Promises fun panels =>
      ∀ p ∈ panels, p.visited = false := promises_list Panel.promises_format
  refine (promises_record demands "InstallDefinition" ?_).map ?_
  · exact ⟨.trivial _, fun _ _ => True.intro, .trivial _, fun _ _ => True.intro, .trivial _,
      fun _ _ => True.intro, .trivial _, fun _ _ => True.intro, hpanels, fun _ h => (by cases h),
      True.intro⟩
  · rintro ⟨initial, conditions, derivations, requirements, panels, _⟩ ⟨-, -, -, -, h, -⟩
    exact h

/-- **A definition that has been loaded has no visited panels.** -/
theorem unvisited_of_load {path : String} {content : Except String ByteArray} {d : Definition}
    (h : load path content = .ok d) : ∀ p ∈ d.panels, p.visited = false := by
  have hparse (text : String) (h : parse text = .ok d) : ∀ p ∈ d.panels, p.visited = false := by
    unfold parse at h
    split at h
    · next d' hread =>
      cases h
      exact promises_format.document hread
    · cases h
  unfold load at h
  split at h
  · cases h
  · split at h
    · exact hparse _ h
    · cases h

end Definition

end SetupWizard
