import DeviceLink.Device.Descriptor
import DeviceLink.Text.JsonFields

/-!
# Device records

The stored form of a descriptor is a record with a field for each part, or the
list of these parts in order. Fields that are not known are skipped, and an
optional part may be missing or null.
-/

namespace DeviceLink

namespace Json

/-- The parts of a stored value: the values of the named fields, or exactly as many items. -/
def parts? (names : List String) : Json → Option (List (Option Json))
  | record fields => some (names.map fun name => fields.lookup name)
  | list items => if items.length = names.length then some (items.map some) else none
  | _ => none

/-- The name of an alternative without content: a string, or a record from it to null. -/
def alternative? : Json → Option String
  | string value => some value
  | record [(name, null)] => some name
  | _ => none

/-- An optional part: absent when it is missing or null, else read by `read`. -/
def optional? {α : Type} (read : Json → Option α) : Option Json → Option (Option α)
  | none => some none
  | some null => some none
  | some value => (read value).map some

end Json

namespace ReportLayout

/-- The names of the stored parts of a layout. -/
def partNames : List String :=
  ["input_report_length", "output_report_length", "report_id_on_read"]

/-- The layout in a stored value. -/
def ofJson? (value : Json) : Option ReportLayout := do
  let [input, output, reportId] ← value.parts? partNames | none
  pure
    { inputLength := ← (← input).naturalBelow? UInt64.size
      outputLength := ← (← output).naturalBelow? UInt64.size
      reportIdOnRead := ← (← reportId).bool? }

/-- The stored form of a layout. -/
def toJson (layout : ReportLayout) : Json :=
  .record
    [ ("input_report_length", .natural layout.inputLength),
      ("output_report_length", .natural layout.outputLength),
      ("report_id_on_read", .bool layout.reportIdOnRead) ]

end ReportLayout

namespace DeviceDescriptor

/-- The names of the stored parts of a descriptor. -/
def partNames : List String :=
  ["name", "path", "transport", "kind", "vendor_id", "product_id", "reports"]

/-- The word of a stored 16-bit number. -/
def word? (value : Json) : Option UInt16 :=
  (value.naturalBelow? 65536).map UInt16.ofNat

/-- The descriptor in a stored value. -/
def ofJson? (value : Json) : Option DeviceDescriptor := do
  let [name, path, attachment, kind, vendor, product, reports] ← value.parts? partNames | none
  pure
    { name := ← (← name).string?
      path := ← (← path).string?
      attachment := ← Attachment.ofIdentifier? (← (← attachment).alternative?)
      kind := ← DeviceKind.ofIdentifier? (← (← kind).alternative?)
      vendor := ← Json.optional? word? vendor
      product := ← Json.optional? word? product
      reports := ← Json.optional? ReportLayout.ofJson? reports }

/-- The stored form of a descriptor. -/
def toJson (descriptor : DeviceDescriptor) : Json :=
  let word := fun (value : UInt16) => Json.natural value.toNat
  .record
    [ ("kind", .string descriptor.kind.identifier),
      ("name", .string descriptor.name),
      ("path", .string descriptor.path),
      ("product_id", .orNull word descriptor.product),
      ("reports", .orNull ReportLayout.toJson descriptor.reports),
      ("transport", .string descriptor.attachment.identifier),
      ("vendor_id", .orNull word descriptor.vendor) ]

end DeviceDescriptor

end DeviceLink
