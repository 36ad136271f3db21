/-!
# Kinds of devices

The vendor and product ids of a USB device tell its kind. One vendor makes the
devices this library is for; the others make serial adapters in which such a
device may sit behind known product ids only.
-/

namespace DeviceLink

/-- How a device is attached. -/
inductive Attachment
  | serial
  | hid
  deriving DecidableEq, Inhabited

/-- The maker family of a device. -/
inductive DeviceKind
  | createLab
  | ftdi
  | cp210x
  | ch340
  | prolific
  | unknown
  deriving DecidableEq, Inhabited

namespace DeviceKind

/-- A vendor with the product ids that count; an empty list counts them all. -/
structure Vendor where
  /-- The vendor id. -/
  vendor : UInt16
  /-- The product ids that count, empty when all do. -/
  products : List UInt16
  /-- The kind of the devices. -/
  kind : DeviceKind

/-- The vendors with a kind of their own. -/
def vendors : List Vendor :=
  [ ⟨0x2354, [], createLab⟩,
    ⟨0x0403, [0x6001, 0x6010, 0x6011, 0x6014, 0x6015], ftdi⟩,
    ⟨0x10C4, [0xEA60, 0xEA70, 0xEA71, 0xEA63], cp210x⟩,
    ⟨0x1A86, [0x7523, 0x7522, 0x5523, 0x5512, 0x55D4], ch340⟩,
    ⟨0x067B, [0x2303, 0x23A3, 0x23C3, 0x23D3], prolific⟩ ]

/-- The kind of a device with these ids. -/
def ofIds (vendor product : UInt16) : DeviceKind :=
  match vendors.find? fun known =>
      known.vendor == vendor && (known.products.isEmpty || known.products.contains product) with
  | some known => known.kind
  | none => unknown

/-- The name of a kind as it is shown. -/
def name : DeviceKind → String
  | createLab => "CREATE Lab"
  | ftdi => "FTDI"
  | cp210x => "CP210x"
  | ch340 => "CH340/CH341"
  | prolific => "PL2303"
  | unknown => "Unknown"

/-- Every kind but the unknown one. -/
def isKnown : DeviceKind → Bool
  | unknown => false
  | _ => true

/-- The identifier of a kind in records. -/
def identifier : DeviceKind → String
  | createLab => "CreateLab"
  | ftdi => "Ftdi"
  | cp210x => "Cp210x"
  | ch340 => "Ch340"
  | prolific => "Prolific"
  | unknown => "Unknown"

/-- All kinds. -/
def all : List DeviceKind := [createLab, ftdi, cp210x, ch340, prolific, unknown]

/-- The kind of an identifier. -/
def ofIdentifier? (text : String) : Option DeviceKind :=
  all.find? fun kind => kind.identifier == text

end DeviceKind

namespace Attachment

/-- The identifier of an attachment in records. -/
def identifier : Attachment → String
  | serial => "Serial"
  | hid => "Hid"

/-- The attachment of an identifier. -/
def ofIdentifier? (text : String) : Option Attachment :=
  [serial, hid].find? fun attachment => attachment.identifier == text

end Attachment

end DeviceLink
