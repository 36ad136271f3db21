import DeviceLink.Device.Descriptor
import DeviceLink.Report.Buffer

/-!
# Report frames

An output report starts with the report id zero, carries a payload cut or
padded to the room of the layout, and ends with a command id. It is written
part by part into a buffer, which reports that are too long do not have. An
input report ends with the id of the command it answers, and on some hosts
starts with a report id.
-/

namespace DeviceLink

/-- The payload of an input report with the id of the command it answers. -/
structure InputReport where
  /-- The bytes between the report id, if there is one, and the command id. -/
  payload : List UInt8
  /-- The id of the command that the report answers. -/
  commandId : UInt8
  deriving DecidableEq, Inhabited

namespace ReportLayout

/-- A payload cut or padded with zeros to the room of the layout. -/
def fit (layout : ReportLayout) (payload : List UInt8) : List UInt8 :=
  payload.take layout.room ++ List.replicate (layout.room - payload.length) 0

/-- The bytes of the output report for a payload and a command id. -/
def frame (layout : ReportLayout) (payload : List UInt8) (commandId : UInt8) : List UInt8 :=
  0 :: layout.fit payload ++ [commandId]

/-- The output report for a payload and a command id, written into a blank buffer part by part;
absent when there is no such buffer or a part has no place in it. -/
def assemble?
    (layout : ReportLayout)
    (payload : List UInt8)
    (commandId : UInt8) : Option (List UInt8) := do
  let blank ← Buffer.blank? layout.outputLength
  let started ← Buffer.setByte? 0 0 blank
  let count := min payload.length layout.room
  let shown ← Buffer.firstBytes? count payload
  let filled ← Buffer.overwrite? 1 (count + 1) shown started
  let last ← Buffer.placeBefore? layout.outputLength
  Buffer.setByte? last commandId filled

/-- The bytes of a raw report without its report id; absent when there is none to remove. -/
def body? (layout : ReportLayout) (raw : List UInt8) : Option (List UInt8) :=
  if layout.reportIdOnRead then raw.tail? else some raw

/-- The input report in raw bytes, absent when no byte is left for the command id. -/
def parse? (layout : ReportLayout) (raw : List UInt8) : Option InputReport := do
  let body ← layout.body? raw
  let commandId ← body.getLast?
  pure ⟨body.dropLast, commandId⟩

/-- Check that output reports hold both ids and that input reports are not empty. -/
def check (layout : ReportLayout) : Except LinkError Unit :=
  if layout.outputLength < 2 then
    .error (.config ("output report length " ++ toString layout.outputLength
      ++ " cannot hold report id and command id"))
  else if layout.inputLength = 0 then .error (.config "input report length is zero")
  else .ok ()

end ReportLayout

end DeviceLink
