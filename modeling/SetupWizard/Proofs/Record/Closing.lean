/-
# A sink is closed by writing its document

A sink that writes a document takes records and writes nothing until it is told that there are no
more.  Then it writes the document with all of them, and from then on refuses every call.  So what a
sink is after any calls is known from the records it was passed before it was finished first
(`after_of_open`, `after_of_finish`), and with it the answer to the next call, whatever it is
(`document_of_calls`).  A wizard that hands over its record to a sink makes such calls too.
-/
import SetupWizard.Proofs.Record.Writing
import SetupWizard.Proofs.Wizard.Views

namespace SetupWizard

open PanelRecord (document)

/-- A device with unlimited room takes every text. -/
lemma Device.put_of_unlimited {device : Device} (h : device.room? = none) (text : String) :
    device.put text = (true, { device with written := device.written ++ text.toUTF8 }) := by
  simp [put, h]

namespace DocumentSink

/-- The calls on a sink. -/
inductive Call where
  /-- To take a visited panel. -/
  | write (r : PanelRecord)
  /-- To take notice that there are no more. -/
  | finish
deriving DecidableEq

/-- What a call comes to: the answer of the sink, and the sink after it. -/
def Call.perform : Call → DocumentSink → Except Failure Unit × DocumentSink
  | .write r => sink.write r
  | .finish => sink.finish

/-- The sink after some calls. -/
def after (calls : List Call) (s : DocumentSink) : DocumentSink :=
  calls.foldl (fun s call => (call.perform s).2) s

/-- The record that a call passes to the sink. -/
def Call.record? : Call → Option PanelRecord
  | .write r => some r
  | .finish => none

/-- The records that calls pass to the sink, in order. -/
def passed (calls : List Call) : List PanelRecord := calls.filterMap Call.record?

variable {s : DocumentSink} {calls first : List Call}

/-! ### One call -/

lemma perform_write (r : PanelRecord) (h : s.finished = false) :
    (Call.write r).perform s = (.ok (), { s with records := s.records ++ [r] }) := by
  simp [Call.perform, sink, write, h]

lemma perform_finish (h : s.finished = false) (hroom : s.device.room? = none) :
    Call.finish.perform s = (.ok (), { s with
      device := { s.device with
        written := s.device.written ++ (document s.records).toUTF8 }
      finished := true }) := by
  simp [Call.perform, sink, finish, h, Device.put_of_unlimited, hroom, document,
    ByteArray.append_assoc]

/-- A finished sink refuses every call. -/
lemma perform_of_finished (call : Call) (h : s.finished = true) :
    call.perform s = (.error alreadyFinished, s) := by
  cases call <;> simp [Call.perform, sink, write, finish, h]

/-! ### Any calls -/

lemma after_cons (call : Call) (calls : List Call) (s : DocumentSink) :
    after (call :: calls) s = after calls (call.perform s).2 := rfl

lemma after_append (first later : List Call) (s : DocumentSink) :
    after (first ++ later) s = after later (after first s) :=
  List.foldl_append

/-- Until it is finished, a sink gathers what it is passed. -/
lemma after_of_open (h : s.finished = false) (hcalls : .finish ∉ calls) :
    after calls s = { s with records := s.records ++ passed calls } := by
  induction calls generalizing s with
  | nil => simp [after, passed]
  | cons call calls ih =>
    obtain ⟨hcall, hrest⟩ := List.ne_and_not_mem_of_not_mem_cons hcalls
    cases call with
    | finish => exact absurd rfl hcall
    | write r =>
      have hgathered := @ih { s with records := s.records ++ [r] } h hrest
      rw [List.append_assoc, List.singleton_append] at hgathered
      rw [after_cons, perform_write r h]
      exact hgathered

lemma after_of_finished (calls : List Call) (h : s.finished = true) : after calls s = s := by
  induction calls with
  | nil => rfl
  | cons call calls ih =>
    rw [after_cons, perform_of_finished call h, ih]

/-- A sink is left as its first finish made it. -/
lemma after_of_finish (h : s.finished = false) (hroom : s.device.room? = none)
    (hfirst : .finish ∉ first) (later : List Call) :
    after (first ++ .finish :: later) s =
      { device := { s.device with
          written := s.device.written ++ (document (s.records ++ passed first)).toUTF8 }
        records := s.records ++ passed first
        finished := true } := by
  have hopen := after_of_open h hfirst
  have hfinish := perform_finish (s := after first s) (by rw [hopen]; exact h)
    (by rw [hopen]; exact hroom)
  rw [after_append, after_cons, hfinish, after_of_finished later rfl, hopen]

/-! ### The record of a wizard -/

lemma writeAll_of_finished (records : List PanelRecord) (h : s.finished = true) :
    sink.writeAll records s = (.error alreadyFinished, s) := by
  cases records with
  | nil => exact perform_of_finished .finish h
  | cons r records =>
    have hwrite : sink.write r s = (.error alreadyFinished, s) :=
      perform_of_finished (.write r) h
    rw [Sink.writeAll, hwrite]

section

variable {σ : Type} {T : Crew σ} {w w' : Wizard σ} {js : List Event}
  {records : List PanelRecord}

open Wizard

/-- An open sink takes the record of a wizard and writes it behind what it was passed before. -/
lemma exists_of_writeRecord (h : s.finished = false) (hroom : s.device.room? = none)
    (hrecord : installationRecord T w = ⟨.ok records, w', js⟩) :
    ∃ s', writeRecord T sink (w, s) = ⟨.ok records.length, (w', s'), js⟩ ∧
      s'.device.written =
        s.device.written ++ (document (s.records ++ records)).toUTF8 := by
  have hfinish := perform_finish (s := { s with records := s.records ++ records }) h hroom
  have hall : sink.writeAll records s = _ := (writeAll_of_open records h).trans hfinish
  refine ⟨_, ?_, written_of_writeAll h hall⟩
  simp only [writeRecord, hrecord, hall]

/-- A finished sink stays as it is when a wizard writes its record. -/
lemma exists_of_writeRecord_of_finished (h : s.finished = true) :
    ∃ failure w' js, writeRecord T sink (w, s) = ⟨.error failure, (w', s), js⟩ := by
  rcases hrecord : installationRecord T w with ⟨failure | records, w', js⟩
  · exact ⟨failure, w', js, by simp only [writeRecord, hrecord]⟩
  · refine ⟨alreadyFinished, w', js, ?_⟩
    simp only [writeRecord, hrecord, writeAll_of_finished records h]

/-- After any sessions, the record of a wizard is there, and to make it changes nothing but for the
derivations that the views add. -/
lemma exists_installationRecord {panels : List Panel} (hpanels : ∀ p ∈ panels, p.visited = false)
    (env : Environment) (stretches : List (Crew σ × List SetupWizard.Call)) (T : Crew σ) :
    let w := (sessions stretches (ofPanels panels env)).state
    ∃ records added js,
      installationRecord T w = ⟨.ok records, w.mapEnv (·.addDerivations added), js⟩ ∧
        ((∀ stage scene, T.recorded stage scene = []) → added = []) := by
  intro w
  obtain ⟨hmade, htrail⟩ := made_sessions stretches (trail_ofPanels hpanels env)
  have hviews (i : Nat) (hi : i ∈ w.visitedPositions) : w.hasView i = true := by
    obtain ⟨front, rest, hts, -⟩ := (htrail.visited i).mp hi
    rw [List.nil_append] at hts
    refine hmade.entered i (mem_entered_of_targets ?_)
    rw [hts]
    exact List.mem_append_right front List.mem_cons_self
  obtain ⟨records, added, js, hrecords, -, -, hadded⟩ := recordAt_of_hasView (T := T) hviews
  exact ⟨records, added, js, hrecords, hadded⟩

end

/-! ### Main result -/

open Wizard

variable {σ : Type}

/-- **A sink is closed by writing its document.**  A sink is opened on a device with unlimited room
and called on in any order.  Until it is finished nothing is written and every record is taken; to
finish it then writes the document with the records in order and a line feed behind it.  Once it was
finished, the device has that document and nothing more, whatever was called later: every call is
refused with a record error and leaves the sink as it is.  So a wizard that has a record, which it
has after any sessions, writes just this record to an open sink, behind what the sink was passed
before, and answers with its length; on a finished sink it fails and nothing is written. -/
theorem document_of_calls (T : Crew σ) (device : Device) (hdevice : device.room? = none)
    (calls : List Call) :
    let s := after calls { device }
    (.finish ∉ calls →
      s.device = device ∧
        (∀ r, ∃ s', (Call.write r).perform s = (.ok (), s') ∧ s'.device = device) ∧
        (∃ s', Call.finish.perform s = (.ok (), s') ∧
          s'.device.written = device.written ++ (document (passed calls)).toUTF8) ∧
        ∀ w records w' js, installationRecord T w = ⟨.ok records, w', js⟩ →
          ∃ s', writeRecord T sink (w, s) = ⟨.ok records.length, (w', s'), js⟩ ∧
            s'.device.written = device.written ++ (document (passed calls ++ records)).toUTF8) ∧
      (∀ first later, calls = first ++ .finish :: later → .finish ∉ first →
        s.device.written = device.written ++ (document (passed first)).toUTF8 ∧
          (∀ call : Call, ∃ text, call.perform s = (.error (.record text), s)) ∧
          ∀ w, ∃ failure w' js, writeRecord T sink (w, s) = ⟨.error failure, (w', s), js⟩) ∧
      ∀ panels env (stretches : List (Crew σ × List SetupWizard.Call)),
        (∀ p ∈ panels, p.visited = false) →
        let w := (sessions stretches (ofPanels panels env)).state
        ∃ records added js,
          installationRecord T w = ⟨.ok records, w.mapEnv (·.addDerivations added), js⟩ ∧
            ((∀ stage scene, T.recorded stage scene = []) → added = []) := by
  intro s
  refine ⟨fun hopen => ?_, fun first later hcalls hfirst => ?_, fun panels env stretches hpanels =>
    exists_installationRecord hpanels env stretches T⟩
  · have hs : s = { device, records := passed calls } := after_of_open rfl hopen
    have hfinished : s.finished = false := by rw [hs]
    have hroom : s.device.room? = none := by rw [hs]; exact hdevice
    have hrecords : s.records = passed calls := by rw [hs]
    have hunchanged : s.device = device := by rw [hs]
    refine ⟨hunchanged, fun r => ⟨_, perform_write r hfinished, hunchanged⟩,
      ⟨_, perform_finish hfinished hroom, ?_⟩, fun w records w' js hrecord => ?_⟩
    · rw [hrecords, hunchanged]
    · rw [← hrecords, ← hunchanged]
      exact exists_of_writeRecord hfinished hroom hrecord
  · have hs : s = _ :=
      (congrArg (after · { device }) hcalls).trans (after_of_finish rfl hdevice hfirst later)
    have hfinished : s.finished = true := by rw [hs]
    refine ⟨by rw [hs]; rfl, fun call => ⟨_, perform_of_finished call hfinished⟩,
      fun w => exists_of_writeRecord_of_finished hfinished⟩

/-- A record of one visited panel. -/
def oneRecord : PanelRecord := { panel := "welcome" }

/-- A sink that is passed a record too late, and finished twice. -/
theorem document_of_late_calls :
    let T : Crew Unit := Toolkit.plain ∅
    let panels : List Panel := [{ id := "welcome", className := "Text" }]
    let w := (sessions [(T, [.move (.next true)])] (ofPanels panels {})).state
    let s := after [.write oneRecord, .finish, .write oneRecord, .finish] {}
    ({} : Device).room? = none ∧ (∀ p ∈ panels, p.visited = false) ∧
      s.device.written = (document [oneRecord]).toUTF8 ∧
      (∃ text, Call.finish.perform s = (.error (.record text), s)) ∧
      (∃ failure w' js, writeRecord T sink (w, s) = ⟨.error failure, (w', s), js⟩) ∧
      ∃ records js s', installationRecord T w = ⟨.ok records, w, js⟩ ∧
        writeRecord T sink (w, {}) = ⟨.ok records.length, (w, s'), js⟩ ∧
        s'.device.written = (document records).toUTF8 := by
  intro T panels w s
  have hpanels : ∀ p ∈ panels, p.visited = false := by decide
  obtain ⟨-, hclosed, -⟩ := document_of_calls T {} rfl
    [.write oneRecord, .finish, .write oneRecord, .finish]
  obtain ⟨hwritten, hrefused, hfailed⟩ := hclosed [.write oneRecord] _ rfl (by simp)
  obtain ⟨hopen, -, hrecord⟩ := document_of_calls T {} rfl []
  obtain ⟨records, added, js, hrecords, hadded⟩ :=
    hrecord panels {} [(T, [.move (.next true)])] hpanels
  have hsame : Wizard.mapEnv (·.addDerivations added) w = w := by
    rw [hadded fun _ _ => rfl]
    simp [mapEnv]
  rw [hsame] at hrecords
  obtain ⟨-, -, -, hwrite⟩ := hopen List.not_mem_nil
  obtain ⟨s', hs', hwritten'⟩ := hwrite w records w js hrecords
  refine ⟨rfl, hpanels, hwritten.trans ByteArray.empty_append, hrefused .finish, hfailed w, records,
    js, s', hrecords, hs', hwritten'.trans ByteArray.empty_append⟩

end DocumentSink

end SetupWizard
