import DeviceLink.Device.Kind
import DeviceLink.Error
import DeviceLink.Text.Hex

/-!
# Device descriptors

A descriptor names a device that was found: its path, how it is attached, its
kind and ids, and, for report devices, the lengths of its reports.
-/

namespace DeviceLink

/-- Lengths of the reports of a device, and whether incoming ones start with a report id. -/
structure ReportLayout where
  /-- The number of bytes of an incoming report. -/
  inputLength : Nat
  /-- The number of bytes of an outgoing report. -/
  outputLength : Nat
  /-- Incoming reports start with a report id. -/
  reportIdOnRead : Bool := false
  deriving DecidableEq, Inhabited

/-- Payload bytes of an output report, next to its report id and its command id. -/
def ReportLayout.room (layout : ReportLayout) : Nat :=
  layout.outputLength - 2

/-- What is known about a device. -/
structure DeviceDescriptor where
  /-- The name to show. -/
  name : String
  /-- The path by which the device is opened and claimed. -/
  path : String
  /-- How the device is attached. -/
  attachment : Attachment
  /-- The maker family, from the ids. -/
  kind : DeviceKind
  /-- The vendor id, if it is known. -/
  vendor : Option UInt16
  /-- The product id, if it is known. -/
  product : Option UInt16
  /-- The layout of the reports, if the device has reports. -/
  reports : Option ReportLayout
  deriving DecidableEq, Inhabited

namespace DeviceDescriptor

/-- A serial port that is known by its path only. -/
def serial (path : String) : DeviceDescriptor where
  name := path
  path := path
  attachment := .serial
  kind := .unknown
  vendor := none
  product := none
  reports := none

/-- A serial port behind a USB device. -/
def usbSerial (path : String) (vendor product : UInt16) : DeviceDescriptor :=
  { serial path with
    kind := .ofIds vendor product
    vendor := some vendor
    product := some product }

/-- A report device, named by its ids. -/
def reporting
    (path : String)
    (vendor product : UInt16)
    (reports : Option ReportLayout) : DeviceDescriptor where
  name := "HID " ++ Hex.word vendor ++ ":" ++ Hex.word product
  path := path
  attachment := .hid
  kind := .ofIds vendor product
  vendor := some vendor
  product := some product
  reports := reports

/-- The same device under another name. -/
def named (descriptor : DeviceDescriptor) (name : String) : DeviceDescriptor :=
  { descriptor with name := name }

/-- The report layout, which report devices need. -/
def requireReports (descriptor : DeviceDescriptor) : Except LinkError ReportLayout :=
  match descriptor.reports with
  | some layout => .ok layout
  | none => .error (.config (descriptor.path ++ " has no HID report layout"))

/-- One line about a device: path, kind if known, ids, and name where it is not the path. -/
def summary (descriptor : DeviceDescriptor) : String :=
  let kind := if descriptor.kind.isKnown then " [" ++ descriptor.kind.name ++ "]" else ""
  let ids := match descriptor.vendor, descriptor.product with
    | some vendor, some product => " (" ++ Hex.word vendor ++ ":" ++ Hex.word product ++ ")"
    | _, _ => ""
  let name := if descriptor.name = descriptor.path then "" else " - " ++ descriptor.name
  descriptor.path ++ kind ++ ids ++ name

end DeviceDescriptor

/-- A report device to look for: its ids, its report layout and the name to give it. -/
structure ReportDeviceSpec where
  /-- The name to give to the device. -/
  name : String
  /-- The wanted vendor id. -/
  vendor : UInt16
  /-- The wanted product id. -/
  product : UInt16
  /-- The layout of its reports. -/
  reports : ReportLayout
  deriving DecidableEq, Inhabited

namespace ReportDeviceSpec

/-- The ids are the wanted ones. -/
def fits (spec : ReportDeviceSpec) (vendor product : UInt16) : Bool :=
  spec.vendor == vendor && spec.product == product

/-- The descriptor of a fitting device at `path`. -/
def descriptorAt (spec : ReportDeviceSpec) (path : String) : DeviceDescriptor :=
  (DeviceDescriptor.reporting path spec.vendor spec.product (some spec.reports)).named spec.name

end ReportDeviceSpec

end DeviceLink
