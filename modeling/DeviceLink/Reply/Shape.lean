import DeviceLink.Line.Verified
import DeviceLink.Reply.LengthField

/-!
# Replies to serial commands

A serial command is written until it is echoed, and then the device replies in
one of three shapes: not at all, with a fixed number of bytes, or with a
header that tells how many bytes follow it.
-/

namespace DeviceLink

/-- The shape of the reply to a command. The body length may be absent for short headers. -/
inductive ReplyShape
  | nothing
  | fixed (size : Nat)
  | framed (headerSize : Nat) (bodyLength? : List UInt8 → Option Nat)

namespace ReplyShape

/-- The framed shape whose body length stands in a field of the header. -/
def withLengthField
    (field : LengthField)
    (headerSize offset : Nat) : Except Fault ReplyShape := do
  field.check headerSize offset
  pure (.framed headerSize (field.lengthAt? offset))

/-- The name of the command form that expects this reply. -/
def label : ReplyShape → String
  | nothing => "NoReturnValueStrategy"
  | fixed _ => "FixedReturnValueStrategy"
  | framed _ _ => "VariableLengthReturnValueStrategy"

/-- The response to a fixed reply that was read this way. -/
def fixedResponse : Reading → Response
  | .complete data => .successWith data
  | .cut data => .readFailed data
  | .ended => .readFailed []

/-- The response to a framed reply whose header arrived and whose body was read this way. -/
def framedResponse (header : List UInt8) : Reading → Response
  | .complete body => .successWith (header ++ body)
  | .cut body => .readFailed (header ++ body)
  | .ended => .readFailed header

/-- Read a reply of this shape. -/
def receive (settings : LineSettings) : ReplyShape → Exchange Line Response
  | nothing => pure .success
  | fixed size => do
      let reading ← Line.read settings size
      pure (fixedResponse reading)
  | framed headerSize bodyLength? => do
      match ← Line.read settings headerSize with
      | .complete header => do
          let size ← Exchange.ofOption (bodyLength? header)
          let reading ← Line.read settings size
          pure (framedResponse header reading)
      | .cut arrived => pure (.readFailed arrived)
      | .ended => pure (.readFailed [])

end ReplyShape

/-- A command with the shape of its reply. -/
structure SerialCommand where
  /-- The command to write. -/
  command : Command
  /-- The shape of its reply. -/
  shape : ReplyShape
  /-- The timing of the line. -/
  settings : LineSettings := {}

namespace SerialCommand

/-- Write the command until it is echoed, then read its reply. -/
def execute (request : SerialCommand) : Exchange Line Response := do
  if ← Line.writeVerified request.settings request.command.bytes then
    request.shape.receive request.settings
  else pure .writeFailed

/-- The fields that identify a framed command, for diagnostics. -/
def describeFramed (command : Command) (headerSize : Nat) : String :=
  "VariableLengthReturnValueStrategy \x7b command: " ++ command.describe
    ++ ", header_size: " ++ toString headerSize ++ ", .. \x7d"

end SerialCommand

end DeviceLink
