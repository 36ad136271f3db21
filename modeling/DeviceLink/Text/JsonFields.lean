import DeviceLink.Text.Hex
import DeviceLink.Text.Json
import DeviceLink.Time.Duration

/-!
# Fields of JSON records

Lenient access to the fields of a record: a field that is missing, null or of
another form counts as not given. Bytes are kept as hexadecimal digits, and
counts that may pass the range of a number as decimal digits.
-/

namespace DeviceLink.Json

/-! ### Reading -/

/-- The text of a string. -/
def string? : Json → Option String
  | string value => some value
  | _ => none

/-- The truth value of a boolean. -/
def bool? : Json → Option Bool
  | bool value => some value
  | _ => none

/-- The number of an integer that is not negative. -/
def natural? : Json → Option Nat
  | integer value => if 0 ≤ value then some value.toNat else none
  | _ => none

/-- The number of an integer that is not negative and below `bound`. -/
def naturalBelow? (bound : Nat) (value : Json) : Option Nat :=
  value.natural?.filter (· < bound)

/-- The items of a list, none for other values. -/
def items : Json → List Json
  | list values => values
  | _ => []

/-- A field of a record, null when there is none. -/
def get (value : Json) (name : String) : Json :=
  match value with
  | record fields => (fields.lookup name).getD null
  | _ => null

/-- The field is given. -/
def has (value : Json) (name : String) : Bool :=
  match value.get name with
  | null => false
  | _ => true

/-- The text of a field, if it is given. -/
def text? (value : Json) (name : String) : Option String :=
  (value.get name).string?

/-- The text of a field, empty when it is not given. -/
def str (value : Json) (name : String) : String :=
  (value.text? name).getD ""

/-- The number of a field, if it is given. -/
def nat? (value : Json) (name : String) : Option Nat :=
  (value.get name).natural?

/-- The number of a field, `default` when it is not given. -/
def nat (value : Json) (name : String) (default : Nat := 0) : Nat :=
  (value.nat? name).getD default

/-- The truth value of a field, false when it is not given. -/
def flag (value : Json) (name : String) : Bool :=
  (value.get name).bool?.getD false

/-- The items of a field. -/
def all (value : Json) (name : String) : List Json :=
  (value.get name).items

/-- The strings among the items of a field. -/
def strings (value : Json) (name : String) : List String :=
  (value.all name).filterMap string?

/-- The bytes of hexadecimal digits. -/
def bytesOf (text : String) : List UInt8 :=
  (Hex.bytes? text.toList).getD []

/-- The bytes of a field, if it is given. -/
def bytes? (value : Json) (name : String) : Option (List UInt8) :=
  (value.text? name).map bytesOf

/-- The bytes of a field, none when it is not given. -/
def bytes (value : Json) (name : String) : List UInt8 :=
  (value.bytes? name).getD []

/-- The 16-bit word of a field. -/
def word (value : Json) (name : String) : UInt16 :=
  UInt16.ofNat (value.nat name)

/-- The duration of a field that counts milliseconds. -/
def millis? (value : Json) (name : String) : Option Duration :=
  (value.nat? name).map fun millis => .ofMillis (UInt64.ofNat millis)

/-! ### Writing -/

/-- Bytes as hexadecimal digits. -/
def hex (values : List UInt8) : Json :=
  string (Hex.run values)

/-- A count as decimal digits. -/
def decimal (value : Nat) : Json :=
  string (toString value)

/-- The value, or null. -/
def orNull {α : Type} (write : α → Json) : Option α → Json
  | none => null
  | some value => write value

end DeviceLink.Json
