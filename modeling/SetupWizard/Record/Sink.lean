/-
# Sinks for records

A sink takes the visited panels of an installation one by one and is told when the last one
has come.  The sink of this file gathers them and then writes them as one document to a device,
after which it is closed.
-/
import SetupWizard.Record

namespace SetupWizard

/-- Whoever takes the record of an installation, with a state of type `τ`. -/
structure Sink (τ : Type) where
  /-- Takes one visited panel. -/
  write : PanelRecord → τ → Except Failure Unit × τ
  /-- Takes notice that there are no more. -/
  finish : τ → Except Failure Unit × τ := fun s => (.ok (), s)

namespace Sink

variable {τ : Type}

/-- Hands visited panels over in order, up to the first that is not taken. -/
def writeAll (sink : Sink τ) : List PanelRecord → τ → Except Failure Unit × τ
  | [], s => sink.finish s
  | r :: rs, s =>
    match sink.write r s with
    | (.ok (), s) => sink.writeAll rs s
    | (.error failure, s) => (.error failure, s)

/-- The sink that only gathers. -/
def gathering : Sink (List PanelRecord) where
  write r rs := (.ok (), rs ++ [r])

end Sink

/-- A device that takes bytes until its room is used up, if it is limited at all. -/
structure Device where
  /-- What the device has taken. -/
  written : ByteArray := .empty
  /-- How many more bytes the device takes. -/
  room? : Option Nat := none

namespace Device

/-- Puts a text on the device, as much of it as fits, and says whether all of it did. -/
def put (device : Device) (text : String) : Bool × Device :=
  let bytes := text.toUTF8
  match device.room? with
  | none => (true, { device with written := device.written ++ bytes })
  | some room =>
    if bytes.size ≤ room then
      (true, { written := device.written ++ bytes, room? := some (room - bytes.size) })
    else (false, { written := device.written ++ bytes.extract 0 room, room? := some 0 })

/-- What a device says when its room is used up. -/
def fullText : String := "device full"

end Device

/-- A document in the making. -/
structure DocumentSink where
  /-- Where the document goes. -/
  device : Device := {}
  /-- The panels gathered so far. -/
  records : List PanelRecord := []
  /-- Whether the document has been written. -/
  finished : Bool := false

namespace DocumentSink

/-- What a closed sink says. -/
def alreadyFinished : Failure := .record "record already finished"

/-- Gathers one visited panel. -/
def write (r : PanelRecord) (s : DocumentSink) : Except Failure Unit × DocumentSink :=
  if s.finished then (.error alreadyFinished, s)
  else (.ok (), { s with records := s.records ++ [r] })

/-- Writes the document and the line feed behind it. -/
def finish (s : DocumentSink) : Except Failure Unit × DocumentSink :=
  if s.finished then (.error alreadyFinished, s)
  else
    match s.device.put (PanelRecord.renderList s.records) with
    | (false, device) => (.error (.document (.unwritable Device.fullText)), { s with device })
    | (true, device) =>
      match device.put "\n" with
      | (false, device) => (.error (.io Device.fullText), { s with device })
      | (true, device) => (.ok (), { s with device, finished := true })

/-- The sink that writes one document. -/
def sink : Sink DocumentSink where
  write := write
  finish := finish

/-- What has been written, if it is a text. -/
def text? (s : DocumentSink) : Option String := String.fromUTF8? s.device.written

end DocumentSink

end SetupWizard
