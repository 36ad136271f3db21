import DeviceLink.Report.Frame
import DeviceLink.Report.Port

/-!
# Report connections

A connection frames commands as output reports. Each write takes the next
command id, whether or not it goes well; ids count modulo 256. Reports in
either direction pass through a buffer of the length that the layout says, and
an exchange breaks down when no buffer is that long.
-/

namespace DeviceLink

/-- A port with the layout of its reports and the id of its next command. -/
structure ReportConnection where
  /-- The handle on the device. -/
  port : ReportPort
  /-- What is known about the device. -/
  descriptor : DeviceDescriptor
  /-- The layout of its reports. -/
  layout : ReportLayout
  /-- The id of the next command. -/
  nextId : UInt8 := 0
  deriving DecidableEq, Inhabited

/-- The first `count` ids of a counter that starts at `start`. -/
def commandIds (start : UInt8) (count : Nat) : List UInt8 :=
  (List.range count).map fun index => start + UInt8.ofNat index

namespace ReportConnection

/-- A connection over a port, if the descriptor has a usable layout. -/
def ofPort?
    (port : ReportPort)
    (descriptor : DeviceDescriptor) : Except LinkError ReportConnection := do
  let layout ← descriptor.requireReports
  layout.check
  pure { port := port, descriptor := descriptor, layout := layout }

/-- An exchange over the port of a connection. -/
def onPort {α : Type} (exchange : Exchange ReportPort α) : Exchange ReportConnection α :=
  fun connection =>
    let (outcome, port) := exchange connection.port
    (outcome, { connection with port := port })

/-- The id of the next command; the counter moves on. -/
def takeId : Exchange ReportConnection UInt8 := fun connection =>
  (.ok connection.nextId, { connection with nextId := connection.nextId + 1 })

/-- The layout of the reports. -/
def getLayout : Exchange ReportConnection ReportLayout := fun connection =>
  (.ok connection.layout, connection)

/-- Make sure that there are buffers of this length, or break down. -/
def reserve (length : Nat) : Exchange ReportConnection Unit :=
  if length ≤ Buffer.longest then pure () else Exchange.crash

/-- Write a payload under the next command id, which is the result. -/
def write (payload : List UInt8) : Exchange ReportConnection UInt8 := do
  let commandId ← takeId
  let layout ← getLayout
  let report ← Exchange.ofOption (layout.assemble? payload commandId)
  onPort (ReportPort.write report)
  pure commandId

/-- Read one report; absent when none came or it has no room for a command id. -/
def read (wait : Duration) : Exchange ReportConnection (Option InputReport) := do
  let layout ← getLayout
  reserve layout.inputLength
  let raw ← onPort (ReportPort.read layout.inputLength wait)
  pure (if raw.isEmpty then none else layout.parse? raw)

end ReportConnection

end DeviceLink
