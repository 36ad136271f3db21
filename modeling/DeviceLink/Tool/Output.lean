import DeviceLink.Command
import DeviceLink.Device.Descriptor
import DeviceLink.Text.Json
import DeviceLink.Tool.Failure

/-!
# Output of the tool

A run prints results and, apart from them, remarks. A response is shown as
hexadecimal bytes, a list of devices as one line each; both have a JSON form.
-/

namespace DeviceLink

/-- What a run has printed: its results, and its remarks. -/
structure Transcript where
  /-- The text of all results. -/
  results : String := ""
  /-- The text of all remarks. -/
  remarks : String := ""
  deriving DecidableEq, Inhabited

namespace Transcript

/-- Results added behind those that are there. -/
def result (text : String) (transcript : Transcript) : Transcript :=
  { transcript with results := transcript.results ++ text }

/-- A line added to the remarks. -/
def remark (line : String) (transcript : Transcript) : Transcript :=
  { transcript with remarks := transcript.remarks ++ line ++ "\n" }

/-- One transcript behind another. -/
def append (first second : Transcript) : Transcript :=
  ⟨first.results ++ second.results, first.remarks ++ second.remarks⟩

instance : Append Transcript := ⟨append⟩

end Transcript

/-! ### Responses -/

namespace Response

/-- The bytes that arrived. -/
def bytes (response : Response) : List UInt8 :=
  response.data.getD []

/-- The record of a response as it is printed. -/
def printedJson (response : Response) : Json :=
  .record
    [ ("data", .string (Hex.spaced response.bytes)), ("ok", .bool response.isSuccess),
      ("read_ok", .bool response.readOk), ("write_ok", .bool response.writeOk) ]

/-- The printed form of a response. Bytes that arrived are shown also for a failed one. -/
def printed (json : Bool) (response : Response) : String :=
  if json then response.printedJson.text ++ "\n"
  else if response.bytes.isEmpty then ""
  else Hex.spaced response.bytes ++ "\n"

/-- What a response means for the run. -/
def verdict (response : Response) : Except FailureCause Unit :=
  if response.isSuccess then .ok ()
  else if response.writeOk then
    .error (.other ("Incomplete reply (" ++ toString response.bytes.length ++ " bytes received)"))
  else .error (.other "Device did not confirm the command")

end Response

/-! ### Lists of devices -/

namespace DeviceDescriptor

/-- The word for the way a device is attached. -/
def attachmentWord (device : DeviceDescriptor) : String :=
  match device.attachment with
  | .serial => "serial"
  | .hid => "hid"

/-- The record of a device as it is printed. -/
def printedJson (device : DeviceDescriptor) : Json :=
  let id := fun (value : Option UInt16) =>
    match value with
    | some value => Json.natural value.toNat
    | none => Json.null
  .record
    [ ("kind", .string device.kind.name), ("name", .string device.name),
      ("path", .string device.path), ("pid", id device.product),
      ("transport", .string device.attachmentWord), ("vid", id device.vendor) ]

/-- The line of a device in a list. -/
def line (device : DeviceDescriptor) : String :=
  "  • " ++ device.summary ++ "\n"

/-- The printed list of devices, which are called `what`. -/
def printedList (json : Bool) (what : String) (devices : List DeviceDescriptor) : Transcript :=
  if json then { results := (Json.list (devices.map printedJson)).text ++ "\n" }
  else if devices.isEmpty then { remarks := "⚠ No " ++ what ++ " found\n" }
  else
    { results := String.join (devices.map line)
      remarks := "ℹ Found " ++ toString devices.length ++ " " ++ what ++ ":\n" }

end DeviceDescriptor

end DeviceLink
