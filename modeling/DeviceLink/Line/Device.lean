import DeviceLink.Error

/-!
# Scripted serial devices

What a serial line holds for its reader is a list of events. A device is given
by how it answers: each write makes it append events, or makes the write fail.
Devices follow either a list of replies, one for each write, or a list of
turns, each of which waits for a number of bytes.
-/

namespace DeviceLink

/-- One thing a reader meets on a serial line. -/
inductive LineEvent
  | byte (value : UInt8)
  | gap
  | silence
  | hangup
  | readFailure (cause : LinkError)
  | pollFailure (cause : LinkError)
  deriving DecidableEq, Inhabited

namespace LineEvent

/-- The events of a run of bytes. -/
def bytes (values : List UInt8) : List LineEvent :=
  values.map byte

/-- Events that carry no data and only make the reader wait. -/
def isDelay : LineEvent → Bool
  | gap => true
  | silence => true
  | _ => false

end LineEvent

/-- How a device repeats what was written to it. -/
structure EchoShape where
  /-- The index of the byte that comes back inverted, if one does. -/
  flipped : Option Nat := none
  /-- The number of bytes that come back, if not all do. -/
  kept : Option Nat := none
  deriving DecidableEq, Inhabited

namespace EchoShape

/-- The byte with all its bits inverted. -/
def invert (value : UInt8) : UInt8 :=
  value ^^^ 0xFF

/-- The echo of written bytes: one byte may be inverted, then the rest may be cut off. -/
def apply (shape : EchoShape) (written : List UInt8) : List UInt8 :=
  let echoed := match shape.flipped with
    | none => written
    | some index => written.modify index invert
  match shape.kept with
  | none => echoed
  | some count => echoed.take count

end EchoShape

/-- What a device does about one write. -/
inductive LineReply
  | refuse (cause : LinkError)
  | answer (before : List LineEvent) (echo : Option EchoShape) (after : List LineEvent)
  deriving DecidableEq, Inhabited

namespace LineReply

/-- A device that stays silent. -/
def silent : LineReply := answer [] none []

/-- The events a reply appends after a write of `written`, or why the write fails. -/
def events (reply : LineReply) (written : List UInt8) : Except LinkError (List LineEvent) :=
  match reply with
  | refuse cause => .error cause
  | answer before echo after =>
      let repeated := (echo.map fun shape => shape.apply written).getD []
      .ok (before ++ LineEvent.bytes repeated ++ after)

end LineReply

/-- One turn of a device that waits for a number of bytes before it answers. -/
structure LineTurn where
  /-- The number of bytes to wait for. -/
  awaited : Nat
  /-- These bytes are sent back in front of the reply. -/
  echo : Bool
  /-- The bytes of the reply. -/
  reply : List UInt8
  deriving DecidableEq, Inhabited

/-- The bytes of a turn that received `taken`. -/
def LineTurn.bytes (turn : LineTurn) (taken : List UInt8) : List UInt8 :=
  (if turn.echo then taken else []) ++ turn.reply

/-- The device behind a line. -/
inductive LineDevice
  | replying (replies : List LineReply) (otherwise : LineReply)
  | turning (unanswered : List UInt8) (turns : List LineTurn)
  deriving DecidableEq, Inhabited

namespace LineDevice

/-- Take turns while enough bytes are waiting. Left are the waiting bytes and turns. -/
def takeTurns : List UInt8 → List LineTurn → List UInt8 × List UInt8 × List LineTurn
  | waiting, [] => ([], waiting, [])
  | waiting, turn :: turns =>
      if turn.awaited ≤ waiting.length then
        let (sent, left, others) := takeTurns (waiting.drop turn.awaited) turns
        (turn.bytes (waiting.take turn.awaited) ++ sent, left, others)
      else ([], waiting, turn :: turns)

/-- What the device does about a write: new events or a failure, and its later self. -/
def answer (written : List UInt8) : LineDevice → Except LinkError (List LineEvent) × LineDevice
  | replying [] otherwise => (otherwise.events written, replying [] otherwise)
  | replying (reply :: replies) otherwise => (reply.events written, replying replies otherwise)
  | turning unanswered turns =>
      let (sent, left, others) := takeTurns (unanswered ++ written) turns
      (.ok (LineEvent.bytes sent), turning left others)

@[simp] theorem answer_replying_nil
    (written : List UInt8)
    (otherwise : LineReply) :
    (replying [] otherwise).answer written =
      (otherwise.events written, replying [] otherwise) := rfl

@[simp] theorem answer_replying_cons
    (written : List UInt8)
    (reply : LineReply)
    (replies : List LineReply)
    (otherwise : LineReply) :
    (replying (reply :: replies) otherwise).answer written =
      (reply.events written, replying replies otherwise) := rfl

end LineDevice

end DeviceLink
