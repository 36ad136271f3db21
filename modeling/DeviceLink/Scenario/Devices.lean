import DeviceLink.Device.ReportBus
import DeviceLink.Device.SerialPorts
import DeviceLink.Scenario.Faults

/-!
# Devices in scenarios

A scenario describes the devices a machine lists: descriptors, serial ports
and report devices with the reports they hold.
-/

namespace DeviceLink

namespace ReportLayout

/-- The layout that a scenario describes. -/
def ofScenario (value : Json) : ReportLayout :=
  { inputLength := value.nat "input" 9
    outputLength := value.nat "output" 9
    reportIdOnRead := value.flag "rid" }

/-- The record of a layout with its room. -/
def summaryJson (layout : ReportLayout) : Json :=
  .record
    [ ("input", .decimal layout.inputLength), ("output", .decimal layout.outputLength),
      ("room", .decimal layout.room), ("rid", .bool layout.reportIdOnRead) ]

end ReportLayout

/-- The report device to look for that a scenario describes. -/
def ReportDeviceSpec.ofScenario (value : Json) : ReportDeviceSpec :=
  { name := value.str "name"
    vendor := value.word "vid"
    product := value.word "pid"
    reports := .ofScenario value }

namespace DeviceDescriptor

/-- The descriptor that a scenario describes, by the way it is made. -/
def ofScenario (value : Json) : DeviceDescriptor :=
  let path := value.str "path"
  let vendor := value.word "vid"
  let product := value.word "pid"
  let made :=
    match value.str "make" with
    | "usb_serial" => usbSerial path vendor product
    | "hid" => reporting path vendor product (some (.ofScenario value))
    | "usb_hid" => reporting path vendor product none
    | "spec" => (ReportDeviceSpec.ofScenario value).descriptorAt path
    | _ => serial path
  match value.text? "name" with
  | some name => made.named name
  | none => made

/-- The fields of the full record of a descriptor. -/
def summaryFields (device : DeviceDescriptor) : List (String × Json) :=
  let word := fun (value : UInt16) => Json.natural value.toNat
  [ ("name", .string device.name), ("path", .string device.path),
    ("transport", .string device.attachment.identifier),
    ("kind", .string device.kind.identifier), ("kind_name", .string device.kind.name),
    ("known", .bool device.kind.isKnown), ("vid", .orNull word device.vendor),
    ("pid", .orNull word device.product),
    ("reports", .orNull ReportLayout.summaryJson device.reports),
    ("require_reports", .ofResult ReportLayout.summaryJson device.requireReports),
    ("summary", .string device.summary) ]

/-- The full record of a descriptor. -/
def summaryJson (device : DeviceDescriptor) : Json :=
  .record device.summaryFields

end DeviceDescriptor

/-- The listed port that a scenario describes; one with both ids is a USB port. -/
def PortListing.ofScenario (value : Json) : PortListing :=
  { path := value.str "path"
    usb :=
      if value.has "vid" && value.has "pid" then
        some
          { vendor := value.word "vid"
            product := value.word "pid"
            productName := value.text? "product" }
      else none }

/-- The listed ports that a scenario describes; a text stands for a failure to list them. -/
def PortListings.ofScenario : Json → PortListings
  | .string _ => none
  | ports => some (ports.items.map .ofScenario)

/-! ### Report devices -/

/-- The answers that one item of a scenario stands for; `failure` reads its errors. -/
def ReportAnswer.ofScenario (failure : Json → LinkError) (value : Json) : List ReportAnswer :=
  match value with
  | .string digits => [.event (.report (Json.bytesOf digits))]
  | value =>
      if value.has "gap" then List.replicate (value.nat "gap") (.event .gap)
      else if value.has "err" then [.event (.failure (failure (value.get "err")))]
      else [.tagged (UInt8.ofNat (value.nat "id")) (value.bytes "payload") (value.flag "rid")]

/-- The reply to a write that a scenario describes. -/
def ReportReply.ofScenario (failure : Json → LinkError) (value : Json) : ReportReply :=
  if value.has "err" then .refuse (failure (value.get "err"))
  else if value.has "short" then .short (value.nat "short")
  else .queue (value.items.flatMap (ReportAnswer.ofScenario failure))

/-- The report port that a scenario describes. -/
def ReportPort.ofScenario
    (failure : Json → LinkError)
    (path : String)
    (value : Json) : ReportPort :=
  let answers := (value.all "reports").flatMap (ReportAnswer.ofScenario failure)
  { path := path
    incoming := answers.map (ReportAnswer.resolve 0)
    replies := (value.all "replies").map (ReportReply.ofScenario failure)
    otherwise := .ofScenario failure (value.get "default_reply") }

/-- The error behind a bus text of a scenario. -/
def LinkError.ofBusJson (value : Json) : LinkError :=
  .ofBusText (value.string?.getD "")

/-- The report device on the bus that a scenario describes. -/
def ReportUnit.ofScenario (value : Json) : ReportUnit :=
  { path := value.str "path"
    vendor := value.word "vid"
    product := value.word "pid"
    productName := value.text? "product"
    openError := value.text? "open_error"
    port := .ofScenario LinkError.ofBusJson (value.str "path") value }

/-- The report devices that a scenario describes. -/
def ReportBus.ofScenario (value : Json) : ReportBus :=
  value.items.map .ofScenario

/-- The records of all devices on a bus; of the writes only those after the first `shown` of each. -/
def ReportBus.toJson (bus : ReportBus) (shown : List Nat) : Json :=
  .list <| bus.zipIdx.map fun (unit, index) =>
    .record
      [ ("writes", .list ((unit.port.writes.drop (shown.getD index 0)).map .hex)),
        ("pending", .natural unit.port.incoming.length), ("opens", .natural unit.opens),
        ("closes", .natural unit.closes) ]

/-- How many writes each device on a bus has taken. -/
def ReportBus.writeCounts (bus : ReportBus) : List Nat :=
  bus.map fun unit => unit.port.writes.length

end DeviceLink
