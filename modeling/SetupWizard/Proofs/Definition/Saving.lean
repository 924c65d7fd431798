/-
# Definitions load as they were saved

Every part of a definition is read as it was written, except that the marks which a run leaves on
derivations and panels are not written.  A saved definition thus loads without them
(`Definition.parse_render`), and unchanged if there were none (`Definition.load_saved`).
-/
import Mathlib.Tactic.Lemma
import SetupWizard.Definition.Load
import SetupWizard.Proofs.Document.Record

namespace SetupWizard

open Document

namespace Document

lemma faithful_optional_text (s? : Option String) : Format.text.optional.Faithful s? := by
  refine faithful_optional (fun s _ => faithful_text s) fun s depth _ => ?_
  simp [Format.text, Quotation.write]

lemma faithful_optional_flag (b? : Option Bool) : Format.flag.optional.Faithful b? := by
  refine faithful_optional (fun b _ => faithful_flag b) fun b depth _ => ?_
  cases b with
  | true => exact show some 't' ≠ some 'n' by decide
  | false => exact show some 'f' ≠ some 'n' by decide

lemma faithful_list_text (ss : List String) : (Format.list .text).Faithful ss :=
  faithful_list fun s _ => faithful_text s

end Document

lemma Condition.faithful_format (c : Condition) : Condition.format.Faithful c :=
  faithful_via
    (faithful_record "Condition" (by decide)
      ⟨faithful_text c.id, faithful_optional_text c.subject?, faithful_optional_text c.equals?,
        faithful_optional_text c.differs?, faithful_optional_flag c.defined?,
        faithful_list_text c.all, faithful_list_text c.any, faithful_flag c.negate, True.intro⟩)
    rfl

lemma Requirement.faithful_format (r : Requirement) : Requirement.format.Faithful r :=
  faithful_via
    (faithful_record "ValidatorSpec" (by decide)
      ⟨faithful_text r.id, faithful_list_text r.required, faithful_flag r.warnOnly, True.intro⟩)
    rfl

namespace Derivation

/-- The derivation as it was declared. -/
def unmarked (d : Derivation) : Derivation := { d with evaluated := false }

@[simp] lemma unmarked_of_not_evaluated {d : Derivation} (h : d.evaluated = false) :
    d.unmarked = d := by
  cases d
  cases h
  rfl

lemma faithful_format (d : Derivation) : Derivation.format.Faithful d.unmarked :=
  faithful_via
    (faithful_record "DynamicVariableDef" (by decide)
      ⟨faithful_text d.name, faithful_text d.expression, faithful_optional_text d.condition?,
        faithful_flag d.oneShot, faithful_flag d.autoUnset, faithful_flag d.ignoreFailure,
        True.intro⟩)
    rfl

end Derivation

namespace Panel

/-- The panel as it was declared. -/
def unmarked (p : Panel) : Panel := { p with visited := false }

@[simp] lemma unmarked_of_not_visited {p : Panel} (h : p.visited = false) : p.unmarked = p := by
  cases p
  cases h
  rfl

lemma faithful_format (p : Panel) : Panel.format.Faithful p.unmarked :=
  faithful_via
    (faithful_record "PanelDescriptor" (by decide)
      ⟨faithful_text p.id, faithful_text p.className, faithful_flag p.visible,
        faithful_optional_text p.condition?, faithful_list_text p.validators, True.intro⟩)
    rfl

end Panel

namespace Definition

/-- The definition as it was declared, without the marks of a run. -/
def unmarked (d : Definition) : Definition :=
  { d with
    derivations := d.derivations.map Derivation.unmarked
    panels := d.panels.map Panel.unmarked }

lemma unmarked_of_unused {d : Definition}
    (hderivations : ∀ x ∈ d.derivations, x.evaluated = false)
    (hpanels : ∀ p ∈ d.panels, p.visited = false) : d.unmarked = d := by
  have hd : d.derivations.map Derivation.unmarked = d.derivations :=
    (List.map_congr_left fun x hx =>
      Derivation.unmarked_of_not_evaluated (hderivations x hx)).trans (List.map_id _)
  have hp : d.panels.map Panel.unmarked = d.panels :=
    (List.map_congr_left fun p hp =>
      Panel.unmarked_of_not_visited (hpanels p hp)).trans (List.map_id _)
  rw [unmarked, hd, hp]

lemma faithful_format (d : Definition) : format.Faithful d.unmarked := by
  refine faithful_via (faithful_record "InstallDefinition" (by decide)
    ⟨faithful_texts d.initial, faithful_list fun c _ => c.faithful_format, ?_,
      faithful_list fun r _ => r.faithful_format, ?_, True.intro⟩) rfl
  · refine faithful_list fun x hx => ?_
    obtain ⟨y, -, rfl⟩ := List.mem_map.mp hx
    exact y.faithful_format
  · refine faithful_list fun x hx => ?_
    obtain ⟨p, -, rfl⟩ := List.mem_map.mp hx
    exact p.faithful_format

/-- The marks of a run are not written. -/
lemma write_unmarked (depth : Nat) (d : Definition) :
    format.write depth d.unmarked = format.write depth d := by
  have hderivations (depth : Nat) :
      Derivation.format.write depth ∘ Derivation.unmarked = Derivation.format.write depth := rfl
  have hpanels (depth : Nat) :
      Panel.format.write depth ∘ Panel.unmarked = Panel.format.write depth := rfl
  simp only [format, unmarked, Format.via, Format.record, Fields.writeEntries, Format.list,
    List.map_map, hderivations, hpanels]

/-- **A saved definition loads without the marks of a run, and else unchanged.** -/
theorem parse_render (d : Definition) : parse d.render = .ok d.unmarked := by
  have hread : read d.render = .ok d.unmarked := by
    have hdocument := d.faithful_format.readString_render "" rfl
    rw [String.append_empty, Format.render, write_unmarked] at hdocument
    exact hdocument
  rw [parse, hread]

/-- **A definition is loaded from the file to which it was saved.** -/
theorem load_saved {d : Definition} (hderivations : ∀ x ∈ d.derivations, x.evaluated = false)
    (hpanels : ∀ p ∈ d.panels, p.visited = false) :
    parse d.render = .ok d ∧ ∀ path, load path (.ok d.render.toUTF8) = .ok d := by
  have hparse : parse d.render = .ok d := by
    rw [parse_render, unmarked_of_unused hderivations hpanels]
  refine ⟨hparse, fun path => ?_⟩
  simp only [load, fromUTF8?_toUTF8, hparse]

/-- A definition with quotes, backslashes and control characters in its texts, with texts that are
empty and with settings other than the defaults. -/
def quotingPanel : Definition where
  initial := (∅ : Texts).insert "" "C:\\\"new\"\n\t\u0001"
  conditions := [{ id := "\"", subject? := some "", defined? := some false, negate := true }]
  derivations :=
    [{ name := "é\u2028", expression := "$\x7b\\\x7d", oneShot := true, autoUnset := false }]
  requirements := [{ id := "\\", required := ["", "\u007f"], warnOnly := true }]
  panels := [{ id := "", className := "\"\\\r", visible := false, condition? := some "\"" }]

theorem load_saved_quotingPanel :
    (∀ x ∈ quotingPanel.derivations, x.evaluated = false) ∧
    (∀ p ∈ quotingPanel.panels, p.visited = false) ∧
    parse quotingPanel.render = .ok quotingPanel ∧
    ∀ path, load path (.ok quotingPanel.render.toUTF8) = .ok quotingPanel :=
  ⟨by decide, by decide, load_saved (by decide) (by decide)⟩

end Definition

end SetupWizard
