import DeviceLink.Exchange
import DeviceLink.Line.Device

/-!
# Serial lines

A line is the list of events its reader has not met yet, with the device that
answers writes. Three operations work on it: ask whether data is there, read
one byte, and write bytes. The journal of the line keeps every operation with
its outcome, newest first.
-/

namespace DeviceLink

/-- One operation on a line, with its outcome. -/
inductive LineOperation
  | asked (outcome : Except LinkError Bool)
  | read (outcome : Except LinkError UInt8)
  | wrote (bytes : List UInt8) (outcome : Except LinkError Unit)

/-- The bytes of an operation, if it is a write that went well. -/
def LineOperation.written? : LineOperation → Option (List UInt8)
  | .wrote bytes (.ok _) => some bytes
  | _ => none

/-- A serial line. -/
structure Line where
  /-- The events that the reader has not met yet, in order. -/
  incoming : List LineEvent
  /-- The stream ends where the events end, and does not stay silent. -/
  endsWhenDrained : Bool
  /-- The device at the other end. -/
  device : LineDevice
  /-- The operations so far, newest first. -/
  journal : List LineOperation := []

namespace Line

/-- A line on which nothing waits, with a device that follows replies. -/
def quiet (replies : List LineReply) (otherwise : LineReply) : Line where
  incoming := []
  endsWhenDrained := false
  device := .replying replies otherwise

/-- Keep an operation in the journal. -/
def note (operation : LineOperation) (line : Line) : Line :=
  { line with journal := operation :: line.journal }

@[simp] theorem incoming_note (operation : LineOperation) (line : Line) :
    (line.note operation).incoming = line.incoming := rfl

@[simp] theorem endsWhenDrained_note (operation : LineOperation) (line : Line) :
    (line.note operation).endsWhenDrained = line.endsWhenDrained := rfl

@[simp] theorem device_note (operation : LineOperation) (line : Line) :
    (line.note operation).device = line.device := rfl

@[simp] theorem journal_note (operation : LineOperation) (line : Line) :
    (line.note operation).journal = operation :: line.journal := rfl

/-- Events added behind those that wait already. -/
def append (events : List LineEvent) (line : Line) : Line :=
  { line with incoming := line.incoming ++ events }

/-- What asking for data yields, and the events that stay. -/
def lookAhead (ends : Bool) : List LineEvent → Except LinkError Bool × List LineEvent
  | [] => (.ok ends, [])
  | .gap :: rest => (.ok false, rest)
  | .pollFailure cause :: rest => (.error cause, rest)
  | event :: rest => (.ok true, event :: rest)

/-- What reading a byte yields, and the events that stay. -/
def readAhead (ends : Bool) : List LineEvent → Except LinkError UInt8 × List LineEvent
  | [] => (.error (if ends then .endOfStream else .timeout "serial read: no data"), [])
  | .byte value :: rest => (.ok value, rest)
  | .readFailure cause :: rest => (.error cause, rest)
  | .hangup :: rest => (.error .endOfStream, rest)
  | _ :: rest => (.error (.timeout "serial read: no data"), rest)

/-- An outcome of a device operation as the outcome of an exchange. -/
def outcomeOf {α : Type} : Except LinkError α → Except Fault α
  | .ok value => .ok value
  | .error cause => .error (.error cause)

/-- Ask whether a byte can be read now. -/
def available : Exchange Line Bool := fun line =>
  let (outcome, rest) := lookAhead line.endsWhenDrained line.incoming
  (outcomeOf outcome, { line with incoming := rest }.note (.asked outcome))

/-- Read one byte. -/
def readByte : Exchange Line UInt8 := fun line =>
  let (outcome, rest) := readAhead line.endsWhenDrained line.incoming
  (outcomeOf outcome, { line with incoming := rest }.note (.read outcome))

/-- Write bytes; the device answers at once. -/
def write (bytes : List UInt8) : Exchange Line Unit := fun line =>
  let (outcome, device) := line.device.answer bytes
  let line := { line with device := device }
  match outcome with
  | .ok events => (.ok (), (line.append events).note (.wrote bytes (.ok ())))
  | .error cause => (.error (.error cause), line.note (.wrote bytes (.error cause)))

/-- All writes that went well, oldest first. -/
def writes (line : Line) : List (List UInt8) :=
  line.journal.reverse.filterMap LineOperation.written?

/-- All bytes the device got, oldest first. -/
def received (line : Line) : List UInt8 :=
  line.writes.flatten

end Line

end DeviceLink
