import DeviceLink.Exchange

/-!
# Report ports

A report port is the handle on a report device: the reports its reader has not
met yet, and how the device answers writes. An answer may end with a tag that
is relative to the last byte of the write it answers, the way devices tag
their replies. The journal keeps every operation, newest first.
-/

namespace DeviceLink

/-- One thing a reader meets on a report port. -/
inductive ReportEvent
  | report (raw : List UInt8)
  | gap
  | failure (cause : LinkError)
  deriving DecidableEq, Inhabited

/-- What a device queues: an event, or a report that ends with a tag of its own. -/
inductive ReportAnswer
  | event (value : ReportEvent)
  | tagged (offset : UInt8) (payload : List UInt8) (reportId : Bool)
  deriving DecidableEq, Inhabited

/-- The event an answer becomes after a write that ended with `tag`. -/
def ReportAnswer.resolve (tag : UInt8) : ReportAnswer → ReportEvent
  | event value => value
  | tagged offset payload reportId =>
      .report ((if reportId then [0] else []) ++ payload ++ [tag + offset])

/-- What a report device does about one write. -/
inductive ReportReply
  | refuse (cause : LinkError)
  | short (written : Nat)
  | queue (answers : List ReportAnswer)
  deriving DecidableEq, Inhabited

/-- One operation on a report port. -/
inductive ReportOperation
  | wrote (raw : List UInt8) (accepted : Bool)
  | read (millis : Nat)
  deriving DecidableEq, Inhabited

/-- The handle on a report device. -/
structure ReportPort where
  /-- The path of the device. -/
  path : String
  /-- The events that the reader has not met yet, in order. -/
  incoming : List ReportEvent := []
  /-- What the device does about the next writes, in order. -/
  replies : List ReportReply := []
  /-- What the device does about all writes behind these. -/
  otherwise : ReportReply := .queue []
  /-- The port has not been closed. -/
  isOpen : Bool := true
  /-- The operations so far, newest first. -/
  journal : List ReportOperation := []
  deriving DecidableEq, Inhabited

/-- The bytes of an operation, if it is a write that the device took. -/
def ReportOperation.written? : ReportOperation → Option (List UInt8)
  | .wrote raw true => some raw
  | _ => none

/-- The wait of an operation, if it is a read. -/
def ReportOperation.waited? : ReportOperation → Option Nat
  | .read millis => some millis
  | _ => none

namespace ReportPort

/-- Keep an operation in the journal. -/
def note (operation : ReportOperation) (port : ReportPort) : ReportPort :=
  { port with journal := operation :: port.journal }

/-- All writes the device took, oldest first. -/
def writes (port : ReportPort) : List (List UInt8) :=
  port.journal.reverse.filterMap ReportOperation.written?

/-- The waits of all reads in milliseconds, oldest first. -/
def waits (port : ReportPort) : List Nat :=
  port.journal.reverse.filterMap ReportOperation.waited?

/-- The last byte of the last write the device took, zero before any. -/
def lastTag (port : ReportPort) : UInt8 :=
  ((port.journal.findSome? ReportOperation.written?).bind List.getLast?).getD 0

/-- Answers to the last write added behind the events that wait already. -/
def append (answers : List ReportAnswer) (port : ReportPort) : ReportPort :=
  { port with incoming := port.incoming ++ answers.map (ReportAnswer.resolve port.lastTag) }

/-- The error of a write without bytes. -/
def emptyWrite : LinkError := .hid "Invalid data: size can not be 0"

/-- The error of every operation on a closed port. -/
def closedError (port : ReportPort) : LinkError :=
  .deviceNotConnected (port.path ++ " is closed")

/-- The reply to the next write, and the port without it. -/
def takeReply (port : ReportPort) : ReportReply × ReportPort :=
  match port.replies with
  | [] => (port.otherwise, port)
  | reply :: replies => (reply, { port with replies := replies })

/-- The error of a write of which only some bytes were taken. -/
def shortWrite (written length : Nat) : LinkError :=
  .protocol ("short HID write: " ++ toString written ++ " of " ++ toString length ++ " bytes")

/-- Hand a report to the device. One that takes fewer bytes than there are fails the write. -/
def transmit (raw : List UInt8) : Exchange ReportPort Unit := fun port =>
  match port.takeReply with
  | (.refuse cause, later) => (.error (.error cause), later.note (.wrote raw false))
  | (.queue answers, later) => (.ok (), (later.note (.wrote raw true)).append answers)
  | (.short written, later) =>
      let later := later.note (.wrote raw true)
      if written < raw.length then
        (.error (.error (shortWrite written raw.length)), later)
      else (.ok (), later)

/-- Write a report, which must not be empty, to an open port. -/
def write (raw : List UInt8) : Exchange ReportPort Unit := fun port =>
  if port.isOpen then
    if raw.isEmpty then (.error (.error emptyWrite), port) else transmit raw port
  else (.error (.error port.closedError), port)

/-- Read a report of at most `length` bytes; no bytes when the wait is over. -/
def read (length : Nat) (wait : Duration) : Exchange ReportPort (List UInt8) := fun port =>
  if port.isOpen then
    let port := port.note (.read wait.wholeMillis)
    match port.incoming with
    | [] => (.ok [], port)
    | .gap :: rest => (.ok [], { port with incoming := rest })
    | .report raw :: rest => (.ok (raw.take length), { port with incoming := rest })
    | .failure cause :: rest => (.error (.error cause), { port with incoming := rest })
  else (.error (.error port.closedError), port)

/-- The port after it is closed. -/
def close (port : ReportPort) : ReportPort :=
  { port with isOpen := false }

end ReportPort

end DeviceLink
