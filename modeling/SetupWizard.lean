import SetupWizard.Document.Any
import SetupWizard.Inspection
import SetupWizard.Main
import SetupWizard.Store.Typed
import SetupWizard.Proofs.Law
import SetupWizard.Proofs.Wizard.Governed
import SetupWizard.Proofs.Wizard.Origin
import SetupWizard.Proofs.Wizard.Target
import SetupWizard.Proofs.Session
import SetupWizard.Proofs.Unattended.Course
import SetupWizard.Proofs.Validation
import SetupWizard.Proofs.Unattended.Following
import SetupWizard.Proofs.Definition.Check
import SetupWizard.Proofs.Refresh
import SetupWizard.Proofs.Replay
import SetupWizard.Proofs.Unattended.Answers
import SetupWizard.Proofs.Unattended.Reproduction
import SetupWizard.Proofs.Unattended.Skipping
import SetupWizard.Proofs.Unattended.Ending
import SetupWizard.Proofs.Unattended.Certification
import SetupWizard.Proofs.Unattended.Replaying
import SetupWizard.Proofs.Definition.Reading
import SetupWizard.Proofs.Derivation.Pass
import SetupWizard.Proofs.Derivation.Requests
import SetupWizard.Proofs.Environment.History
import SetupWizard.Proofs.Environment.Once
import SetupWizard.Proofs.Environment.Provenance
import SetupWizard.Proofs.Environment.Settling
import SetupWizard.Proofs.Condition.Consulted
import SetupWizard.Proofs.Definition.Soundness
import SetupWizard.Proofs.Wizard.Upkeep
import SetupWizard.Proofs.Definition.Running
import SetupWizard.Proofs.Document.Quotation
import SetupWizard.Proofs.Document.Format
import SetupWizard.Proofs.Document.Record
import SetupWizard.Proofs.Definition.Saving
import SetupWizard.Proofs.Record.Writing
import SetupWizard.Proofs.Unattended.Influence
import SetupWizard.Proofs.Wizard.Laziness
import SetupWizard.Proofs.Derivation.Meaning
import SetupWizard.Proofs.Wizard.Gate
import SetupWizard.Proofs.Wizard.Views
import SetupWizard.Proofs.Wizard.Saving
import SetupWizard.Proofs.Derivation.Failure
import SetupWizard.Proofs.Derivation.Reordering
import SetupWizard.Proofs.Wizard.Return
import SetupWizard.Proofs.Environment.Repetition
import SetupWizard.Proofs.Environment.Postponement
import SetupWizard.Proofs.Environment.Holding
import SetupWizard.Proofs.Condition.Truth
import SetupWizard.Proofs.Condition.Positive
import SetupWizard.Proofs.Condition.Circle
import SetupWizard.Proofs.Template.Dangling
import SetupWizard.Proofs.Template.Layers
import SetupWizard.Proofs.Store.Spelling
import SetupWizard.Proofs.Record.Closing
import SetupWizard.Proofs.Panel.Numbering
import SetupWizard.Proofs.Wizard.Rollback
import SetupWizard.Proofs.Wizard.Reach
import SetupWizard.Proofs.Document.Any
