import DeviceLink.Text.Hex

/-!
# Commands and responses

A command is a sequence of bytes for a device. A response says whether the
device confirmed the command, whether its reply arrived in full, and which
bytes arrived.
-/

namespace DeviceLink

/-- The bytes of one command. -/
structure Command where
  /-- The bytes to send, in order. -/
  bytes : List UInt8
  deriving DecidableEq, Inhabited

namespace Command

/-- A command that starts with an operation code, with its parameters behind it. -/
def withOpcode (opcode : UInt8) (parameters : List UInt8) : Command :=
  ⟨opcode :: parameters⟩

/-- Number of bytes of a command. -/
def length (command : Command) : Nat :=
  command.bytes.length

/-- A command without bytes. -/
def isEmpty (command : Command) : Bool :=
  command.bytes.isEmpty

/-- The bytes in a list of hexadecimal pairs, for diagnostics. -/
def describe (command : Command) : String :=
  "Command([" ++ ", ".intercalate (command.bytes.map Hex.byte) ++ "])"

end Command

/-- What came of a command. -/
structure Response where
  /-- The device has confirmed the command. -/
  writeOk : Bool
  /-- The reply has arrived in full, or there is none to arrive. -/
  readOk : Bool
  /-- The bytes of the reply that have arrived, if the reply has any. -/
  data : Option (List UInt8)
  deriving DecidableEq, Inhabited

namespace Response

/-- The command was confirmed and has no reply. -/
def success : Response := ⟨true, true, none⟩

/-- The command was confirmed and its reply arrived. -/
def successWith (data : List UInt8) : Response := ⟨true, true, some data⟩

/-- The device did not confirm the command. -/
def writeFailed : Response := ⟨false, false, none⟩

/-- The reply stopped early, after these bytes. -/
def readFailed (arrived : List UInt8) : Response :=
  ⟨true, false, if arrived.isEmpty then none else some arrived⟩

/-- Both directions went well. -/
def isSuccess (response : Response) : Bool :=
  response.writeOk && response.readOk

/-- The fields of a response with their names, for diagnostics. -/
def describe (response : Response) : String :=
  let data := match response.data with
    | none => "None"
    | some bytes =>
        "Some([" ++ ", ".intercalate (bytes.map fun byte => toString byte.toNat) ++ "])"
  "CommandResponse \x7b write_ok: " ++ toString response.writeOk
    ++ ", read_ok: " ++ toString response.readOk ++ ", data: " ++ data ++ " \x7d"

end Response

end DeviceLink
