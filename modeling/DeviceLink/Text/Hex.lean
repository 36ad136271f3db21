/-!
# Hexadecimal text

Bytes and 16-bit words in upper-case hexadecimal digits, and the value of a
digit of either case.
-/

namespace DeviceLink.Hex

/-- The upper-case digit of a value below sixteen. -/
def digit (value : Nat) : Char :=
  if value < 10 then Char.ofNat (48 + value) else Char.ofNat (55 + value)

/-- The value of a hexadecimal digit of either case. -/
def value? (c : Char) : Option Nat :=
  if '0' ≤ c ∧ c ≤ '9' then some (c.toNat - 48)
  else if 'A' ≤ c ∧ c ≤ 'F' then some (c.toNat - 55)
  else if 'a' ≤ c ∧ c ≤ 'f' then some (c.toNat - 87)
  else none

/-- The two digits of a byte. -/
def byteDigits (byte : UInt8) : List Char :=
  [digit (byte.toNat / 16), digit (byte.toNat % 16)]

/-- The two digits of a byte, as text. -/
def byte (value : UInt8) : String :=
  String.ofList (byteDigits value)

/-- The four digits of a 16-bit word, as text. -/
def word (value : UInt16) : String :=
  String.ofList
    [digit (value.toNat / 4096), digit (value.toNat / 256 % 16),
      digit (value.toNat / 16 % 16), digit (value.toNat % 16)]

/-- The digits of each byte in turn, with nothing between them. -/
def run (bytes : List UInt8) : String :=
  String.ofList (bytes.flatMap byteDigits)

/-- The bytes in two digits each, one blank apart. -/
def spaced (bytes : List UInt8) : String :=
  " ".intercalate (bytes.map byte)

/-- The byte of two digits, high half first. -/
def byteOf? (high low : Char) : Option UInt8 := do
  let upper ← value? high
  let lower ← value? low
  pure (UInt8.ofNat (16 * upper + lower))

/-- The bytes of an even run of digits. -/
def bytes? : List Char → Option (List UInt8)
  | [] => some []
  | [_] => none
  | high :: low :: rest => do
      let first ← byteOf? high low
      let others ← bytes? rest
      pure (first :: others)

end DeviceLink.Hex
