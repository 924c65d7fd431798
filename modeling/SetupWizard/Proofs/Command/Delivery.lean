/-
# What commands leave behind

A command reads all its files first, and a run is over before anything is printed or a file is made.
The only step that could fail later is writing the record, when its file has been made already.  But
the views of a run that has come to its end can all be asked for their data
(`Unattended.installationRecord_of_run`), and the sink takes what they say.  So a command that fails
leaves nothing behind (`nothing_of_failed`), and one that runs a definition delivers the record of
the run and nothing else (`execute_run`).
-/
import SetupWizard.Command.Execution
import SetupWizard.Proofs.Record.Writing
import SetupWizard.Proofs.Unattended.Run

namespace SetupWizard

namespace Command

open PanelRecord (document)

variable {files : Files} {T : Crew Texts} {w : Wizard Texts} {written : List PanelRecord}

/-! ### Writing a record -/

lemma writeRecord_eq (h : (Wizard.installationRecord T w).result = .ok written)
    (write : String → Work Unit) : writeRecord T w write = write (document written) := by
  obtain ⟨s, hs, htext, -⟩ := PanelRecord.readBytes_of_writeAll written
  have hreport : (Wizard.writeRecord T DocumentSink.sink (w, {})).result = .ok written.length ∧
      (Wizard.writeRecord T DocumentSink.sink (w, {})).state.2 = s := by
    simp only [Wizard.writeRecord, h, hs, and_self]
  rw [writeRecord, hreport.1, hreport.2, htext]
  exact bind_pure _

/-- What is delivered of a record that is there. -/
lemma deliver_eq (h : (Wizard.installationRecord T w).result = .ok written)
    (record? : Option String) (left : Outcome) :
    deliver files T w record? left =
      match record? with
      | none => .ok () { left with output := left.output ++ document written }
      | some path =>
        match files.create path with
        | .ok () => .ok () { left with file? := some (path, document written) }
        | .error reason => .error (.create path reason) left := by
  cases record? with
  | none =>
    rw [deliver, writeRecord_eq h]
    rfl
  | some path =>
    rw [deliver, writeRecord_eq h]
    dsimp only
    unfold make
    cases files.create path with
    | error reason => rfl
    | ok _ =>
      show EStateM.Result.ok () { left with file? := some (path, "" ++ document written) } = _
      rw [String.empty_append]

/-! ### Running a definition -/

variable {d : Definition} {R : List PanelRecord} {path : String} {replay? : Option String}

/-- Nothing is done before the run is over. -/
lemma carryOut_run (hload : loadDefinition files path = .ok d)
    (hreplay : loadReplay files replay? = .ok R) (record? : Option String)
    (skipValidation : Bool) (left : Outcome) :
    carryOut files (.run path replay? record? skipValidation) left =
      match Unattended.run d R !skipValidation with
      | .error e => .error (.run e) left
      | .ok w => deliver files (Unattended.toolkit d R) w record? left := by
  rw [carryOut, runUnattended, hload, hreplay]
  show (ofExcept ((Unattended.run d R !skipValidation).mapError Error.run) >>= _ : Work Unit) _ = _
  cases Unattended.run d R !skipValidation <;> rfl

/-- **What a run delivers.**  When the definition and the record to replay have been loaded, a run
delivers its record, provided that it comes to its end and that the file for the record can be
made. -/
theorem execute_run (hload : loadDefinition files path = .ok d)
    (hreplay : loadReplay files replay? = .ok R) (record? : Option String)
    (skipValidation : Bool) :
    execute files (.run path replay? record? skipValidation) =
      match Unattended.record d R !skipValidation with
      | .error e => .error (.run e)
      | .ok written =>
        match record? with
        | none => .ok { output := document written }
        | some path =>
          match files.create path with
          | .ok () => .ok { file? := some (path, document written) }
          | .error reason => .error (.create path reason) := by
  rw [execute, carryOut_run hload hreplay]
  cases hrun : Unattended.run d R !skipValidation with
  | error e => rw [Unattended.record_of_failed hrun]
  | ok w =>
    obtain ⟨written, hwritten⟩ := Unattended.installationRecord_of_run hrun
    simp only [Unattended.record_of_run hrun hwritten, deliver_eq hwritten, String.empty_append]
    cases record? with
    | none => rfl
    | some path =>
      dsimp only
      cases files.create path <;> rfl

/-! ### Commands that fail -/

/-- Where something fails that begins with a look at the files, either the look has failed and
nothing has been done, or what comes next fails. -/
lemma eq_or_exists_of_error {α : Type} {x : Except Error α} {f : α → Work Unit}
    {left left' : Outcome} {e : Error} (h : (ofExcept x >>= f) left = .error e left') :
    left' = left ∨ ∃ a, x = .ok a ∧ f a left = .error e left' := by
  cases x with
  | error _ =>
    cases h
    exact .inl rfl
  | ok a => exact .inr ⟨a, rfl, h⟩

/-- **A command that fails leaves nothing behind**: it has printed nothing, and it has made no
file. -/
theorem nothing_of_failed {command : Command} {e : Error} {left : Outcome}
    (h : carryOut files command {} = .error e left) : left = {} := by
  cases command with
  | validate path =>
    obtain hleft | ⟨d, -, hprint⟩ := eq_or_exists_of_error h
    · exact hleft
    · cases hprint
  | panels path =>
    obtain hleft | ⟨d, -, hprint⟩ := eq_or_exists_of_error h
    · exact hleft
    · cases hprint
  | run path replay? record? skipValidation =>
    obtain hleft | ⟨d, hload, hrest⟩ := eq_or_exists_of_error h
    · exact hleft
    obtain hleft | ⟨R, hreplay, -⟩ := eq_or_exists_of_error hrest
    · exact hleft
    rw [carryOut_run hload hreplay] at h
    cases hrun : Unattended.run d R !skipValidation with
    | error e' =>
      rw [hrun] at h
      cases h
      rfl
    | ok w =>
      obtain ⟨written, hwritten⟩ := Unattended.installationRecord_of_run hrun
      simp only [hrun, deliver_eq hwritten] at h
      -- The record can be written, so that it is the file that cannot be made.
      split at h
      · cases h
      · split at h
        · cases h
        · cases h
          rfl

end Command

end SetupWizard
