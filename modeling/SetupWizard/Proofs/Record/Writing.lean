/-
# Records are read as they were written

An open sink takes all visited panels and then writes them as one document with a line feed behind
it (`DocumentSink.writeAll_of_open`).  Whatever a sink has put on its device is thereby known, also
where the room on the device is limited (`DocumentSink.written_of_writeAll`), and reading the bytes
gives the same visited panels with the same data (`PanelRecord.readBytes_of_writeAll`).
-/
import Mathlib.Tactic.Lemma
import SetupWizard.Record.Sink
import SetupWizard.Proofs.Document.Record

namespace SetupWizard

open Document

namespace PanelRecord

lemma faithful_format (r : PanelRecord) : PanelRecord.format.Faithful r :=
  faithful_via
    (faithful_record "PanelRecord" (by decide)
      ⟨faithful_text r.panel, faithful_texts r.data, True.intro⟩)
    rfl

/-- The document with records, as it is written with the line feed behind it. -/
def document (records : List PanelRecord) : String := renderList records ++ "\n"

/-- **The document with records has the records that it was written for.** -/
lemma readBytes_document (records : List PanelRecord) :
    readBytes (document records).toUTF8 = .ok records := by
  have hread : listFormat.readString (document records) = .ok records :=
    (faithful_list fun r _ => r.faithful_format).readString_render "\n" (by decide)
  rw [Format.readString] at hread
  simp only [readBytes, fromUTF8?_toUTF8, readList, hread]

end PanelRecord

/-- What a device has after it took a text. -/
lemma Device.written_of_put {device device' : Device} {text : String}
    (h : device.put text = (true, device')) :
    device'.written = device.written ++ text.toUTF8 := by
  rw [put] at h
  split at h
  · cases h
    rfl
  · split at h
    · cases h
      rfl
    · cases h

namespace DocumentSink

open PanelRecord (document)

variable {s s' : DocumentSink}

/-- **An open sink gathers all records and then writes them.** -/
lemma writeAll_of_open (records : List PanelRecord) (h : s.finished = false) :
    sink.writeAll records s = finish { s with records := s.records ++ records } := by
  induction records generalizing s with
  | nil =>
    rw [List.append_nil]
    rfl
  | cons r records ih =>
    have hwrite : sink.write r s = (.ok (), { s with records := s.records ++ [r] }) := by
      simp [sink, write, h]
    have hrest := @ih { s with records := s.records ++ [r] } h
    rw [List.append_assoc, List.singleton_append] at hrest
    rw [Sink.writeAll, hwrite]
    exact hrest

/-- What the device has after a sink is finished. -/
lemma written_of_finish (h : s.finish = (.ok (), s')) :
    s'.device.written = s.device.written ++ (document s.records).toUTF8 := by
  rw [finish] at h
  split at h
  · cases h
  · split at h
    · cases h
    · next device hrecords =>
      split at h
      · cases h
      · next device' hend =>
        cases h
        rw [Device.written_of_put hend, Device.written_of_put hrecords, ByteArray.append_assoc]
        simp [document]

/-- **A sink that has taken all records has put their document on its device**, whatever room
there was. -/
theorem written_of_writeAll {records : List PanelRecord} (hs : s.finished = false)
    (h : sink.writeAll records s = (.ok (), s')) :
    s'.device.written = s.device.written ++ (document (s.records ++ records)).toUTF8 := by
  rw [writeAll_of_open records hs] at h
  exact written_of_finish h

end DocumentSink

/-- **Records are read as they were written**: a new sink takes them all, and what it has put on
its device is a document in which the same records are read. -/
theorem PanelRecord.readBytes_of_writeAll (records : List PanelRecord) :
    ∃ s, DocumentSink.sink.writeAll records {} = (.ok (), s) ∧
      s.text? = some (renderList records ++ "\n") ∧
      readBytes s.device.written = .ok records := by
  obtain ⟨s, hs⟩ : ∃ s, DocumentSink.sink.writeAll records {} = (.ok (), s) :=
    ⟨_, DocumentSink.writeAll_of_open records rfl⟩
  have hwritten : s.device.written = (document records).toUTF8 := by
    rw [DocumentSink.written_of_writeAll rfl hs]
    exact ByteArray.empty_append
  refine ⟨s, hs, ?_, ?_⟩
  · rw [DocumentSink.text?, hwritten, fromUTF8?_toUTF8, document]
  · rw [hwritten, readBytes_document]

end SetupWizard
