import DeviceLink.Device.Descriptor

/-!
# Serial ports of a machine

A machine lists its serial ports with what it knows of the USB device behind
each. A list that cannot be made counts as empty. Of several ports the first
of the preferred kind is picked, else the first of a known kind, else the
first.
-/

namespace DeviceLink

/-- The USB device behind a serial port. -/
structure UsbIdentity where
  /-- The vendor id. -/
  vendor : UInt16
  /-- The product id. -/
  product : UInt16
  /-- The name of the product, if the device tells one. -/
  productName : Option String := none
  deriving DecidableEq, Inhabited

/-- A serial port as the machine lists it. -/
structure PortListing where
  /-- The path of the port. -/
  path : String
  /-- The USB device behind the port, if there is one. -/
  usb : Option UsbIdentity := none
  deriving DecidableEq, Inhabited

namespace PortListing

/-- The descriptor of a listed port; a product name becomes its name. -/
def descriptor (listing : PortListing) : DeviceDescriptor :=
  match listing.usb with
  | none => .serial listing.path
  | some usb =>
      let port := DeviceDescriptor.usbSerial listing.path usb.vendor usb.product
      match usb.productName with
      | none => port
      | some name => port.named name

end PortListing

/-- The ports of a machine, absent when they cannot be listed. -/
abbrev PortListings : Type := Option (List PortListing)

namespace DeviceDescriptor

/-- The descriptors of all serial ports, in the order in which they are listed. -/
def serialPorts (listings : PortListings) : List DeviceDescriptor :=
  (listings.getD []).map PortListing.descriptor

/-- The port to use when none was named. -/
def pick (ports : List DeviceDescriptor) : Except LinkError DeviceDescriptor :=
  let chosen := ports.find? (fun port => port.kind == .createLab)
    <|> ports.find? (fun port => port.kind.isKnown)
    <|> ports.head?
  match chosen with
  | some port => .ok port
  | none => .error .deviceNotFound

/-- The text `part` occurs in `whole`. -/
def occursIn (part : List Char) : List Char → Bool
  | [] => part.isEmpty
  | c :: rest => part.isPrefixOf (c :: rest) || occursIn part rest

/-- The first port whose path contains `pattern`. -/
def findByPattern (ports : List DeviceDescriptor) (pattern : String) :
    Except LinkError DeviceDescriptor :=
  match ports.find? fun port => occursIn pattern.toList port.path.toList with
  | some port => .ok port
  | none => .error .deviceNotFound

end DeviceDescriptor

end DeviceLink
