import DeviceLink.Claims.Acquire
import DeviceLink.Report.Connection
import DeviceLink.Device.SerialPorts

/-!
# Report devices of a machine

A bus lists the report devices of a machine. A device is opened by its path,
and the error texts of the bus tell whether a device is gone, has failed, or
fails in some other way.
-/

namespace DeviceLink

/-- Texts of the bus that mean that a device is not there. -/
def disconnectTexts : List String :=
  ["device is not connected", "no such device", "device not configured"]

/-- Texts of the bus that mean that a device has failed. -/
def failureTexts : List String :=
  ["not functioning", "general failure"]

/-- The error behind a text of the bus; the case of ASCII letters does not count. -/
def LinkError.ofBusText (text : String) : LinkError :=
  let lower := text.toLower.toList
  let mentions := fun (part : String) => DeviceDescriptor.occursIn part.toList lower
  if disconnectTexts.any mentions then .deviceNotConnected text
  else if failureTexts.any mentions then .deviceFailure text
  else .refusedByBus text

/-- A report device on the bus. -/
structure ReportUnit where
  /-- The path of the device. -/
  path : String
  /-- The vendor id. -/
  vendor : UInt16
  /-- The product id. -/
  product : UInt16
  /-- The name of the product, if the device tells one. -/
  productName : Option String := none
  /-- The text with which the device refuses to be opened, if it does. -/
  openError : Option String := none
  /-- The port of the device, in the state in which it was left. -/
  port : ReportPort
  /-- The number of attempts to open the device. -/
  opens : Nat := 0
  /-- The number of times that its port was closed. -/
  closes : Nat := 0
  deriving DecidableEq, Inhabited

/-- The report devices of a machine, in the order in which they are listed. -/
abbrev ReportBus : Type := List ReportUnit

namespace ReportBus

/-- The descriptors of all devices, named by their product where that has a name. -/
def descriptors (bus : ReportBus) : List DeviceDescriptor :=
  bus.map fun unit =>
    let descriptor := DeviceDescriptor.reporting unit.path unit.vendor unit.product none
    match unit.productName with
    | none => descriptor
    | some name => if name.isEmpty then descriptor else descriptor.named name

/-- The descriptors of the devices that fit. -/
def find (bus : ReportBus) (spec : ReportDeviceSpec) : List DeviceDescriptor :=
  (bus.filter fun unit => spec.fits unit.vendor unit.product).map
    fun unit => spec.descriptorAt unit.path

/-- Change the first device with a path. -/
def modifyAt (path : String) (change : ReportUnit → ReportUnit) : ReportBus → ReportBus
  | [] => []
  | unit :: others =>
      if unit.path = path then change unit :: others else unit :: modifyAt path change others

/-- Open the first device with the path of the descriptor. Every attempt is counted. -/
def opener : Opener ReportBus ReportPort := fun _ descriptor bus =>
  match bus.find? fun unit => unit.path == descriptor.path with
  | none => (.error (.ofBusText "no such device"), bus)
  | some unit =>
      let counted := modifyAt descriptor.path (fun unit => { unit with opens := unit.opens + 1 }) bus
      match unit.openError with
      | some text => (.error (.ofBusText text), counted)
      | none => (.ok { unit.port with path := descriptor.path, isOpen := true }, counted)

/-- Open the first free device that fits. -/
def openDevice
    (bus : ReportBus)
    (spec : ReportDeviceSpec)
    (registry : ClaimRegistry) :
    Except LinkError (Acquired ReportPort) × ClaimRegistry × ReportBus :=
  registry.acquire opener (bus.find spec) bus

/-- The bus in which the device at a path is in the state that its port was left in. -/
def put (port : ReportPort) (bus : ReportBus) : ReportBus :=
  modifyAt port.path (fun unit => { unit with port := port }) bus

/-- The bus after a port was closed. -/
def putClosed (port : ReportPort) (bus : ReportBus) : ReportBus :=
  modifyAt port.path (fun unit => { unit with port := port.close, closes := unit.closes + 1 }) bus

end ReportBus

end DeviceLink
