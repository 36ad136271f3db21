import DeviceLink.Exchange

/-!
# Length fields

A framed reply starts with a header, and a field of the header holds the
number of bytes behind it. The field is one byte, or a 16-bit word in either
byte order. It has to lie inside the header. Sizes and offsets are counted in
64-bit words, and in a build with overflow checks a field whose end passes that
range breaks the check down.
-/

namespace DeviceLink

/-- The form of a length field. -/
inductive LengthField
  | byte
  | wordBigEndian
  | wordLittleEndian
  deriving DecidableEq, Inhabited

namespace LengthField

/-- Number of bytes of the field. -/
def width : LengthField → Nat
  | byte => 1
  | wordBigEndian => 2
  | wordLittleEndian => 2

/-- The name of the form in option values. -/
def name : LengthField → String
  | byte => "u8"
  | wordBigEndian => "u16-be"
  | wordLittleEndian => "u16-le"

/-- All forms, in the order in which they are offered. -/
def all : List LengthField := [byte, wordBigEndian, wordLittleEndian]

/-- The form of a given name; `anyCase` ignores the case of ASCII letters. -/
def ofName? (anyCase : Bool) (text : String) : Option LengthField :=
  all.find? fun field =>
    if anyCase then field.name.toLower == text.toLower else field.name == text

/-- The number in the field at `offset`, absent when the header ends before the field does. -/
def lengthAt? (field : LengthField) (offset : Nat) (header : List UInt8) : Option Nat :=
  match field with
  | byte => do
      let value ← header[offset]?
      pure value.toNat
  | wordBigEndian => do
      let high ← header[offset]?
      let low ← header[offset + 1]?
      pure (256 * high.toNat + low.toNat)
  | wordLittleEndian => do
      let low ← header[offset]?
      let high ← header[offset + 1]?
      pure (256 * high.toNat + low.toNat)

/-- Sizes and offsets stay below this number. -/
def sizeLimit : Nat := UInt64.size

/-- The error for a field that does not lie inside its header. -/
def outside (headerSize offset width : Nat) : LinkError :=
  .config ("length field at offset " ++ toString offset ++ " (width " ++ toString width
    ++ ") exceeds header size " ++ toString headerSize)

/-- Check that the field at `offset` lies inside a header. A field whose end is no 64-bit word
breaks the check down, as the addition does in a build with overflow checks. A build without them
would go on with the end that the word wraps to. -/
def check (field : LengthField) (headerSize offset : Nat) : Except Fault Unit :=
  if sizeLimit ≤ offset + field.width then .error .crash
  else if headerSize < offset + field.width then
    .error (.error (outside headerSize offset field.width))
  else .ok ()

end LengthField

end DeviceLink
