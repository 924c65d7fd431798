/-
# Replaying a record

In an unattended run nobody answers the panels, so their views take the answers from a record:
when a panel is entered, its data is put into the store, and the panel puts a hold on each of
these variables so that no derivation overwrites them.  A panel that was visited several times
on the recorded run has the answers of all its visits, the later ones where they differ.
-/
import SetupWizard.View
import SetupWizard.Record

namespace SetupWizard.Replay

/-- Adds data to data, the added winning. -/
def merge (old new : Texts) : Texts := old.insertMany new.toList

/-- The data of all panels of a record. -/
def answers (records : List PanelRecord) : Std.ExtTreeMap String Texts :=
  records.foldl (fun known r => known.insert r.panel (merge (known.getD r.panel ∅) r.data)) ∅

/-- The data of one panel of a record. -/
def answersOf (records : List PanelRecord) (id : String) : Texts :=
  (answers records).getD id ∅

/-- Puts data into a store and holds it there. -/
def give (data : List (String × String)) (holder : String) (store : Store) : Store :=
  data.foldl (fun s pair => (s.set pair.1 pair.2).block pair.1 holder) store

/-- The variables of the data with the values they have in a store. -/
def currentValues (data : Texts) (store : Store) : Texts :=
  .ofList (data.keys.filterMap fun name => (store.get? name).map fun value => (name, value))

/-- What views that replay a record do; their memory is the data of their panel. -/
def hooks : Hooks Texts where
  activate stage := do
    Step.modify fun scene =>
      scene.mapStore (give scene.memory.toList stage.panel.id)
    return true
  recordData _ scene := currentValues scene.memory scene.env.store

/-- Makes the views that replay a record. -/
def toolkit (records : List PanelRecord) (catalog : Catalog) : Toolkit Texts where
  create panel := .ok (answersOf records panel.id)
  hooks := hooks
  catalog := catalog

end SetupWizard.Replay
