import DeviceLink.Text.Hex
import DeviceLink.Toml.Scanner

/-!
# Numbers

Whole numbers fit 64 bits with a sign and may be written in base two, eight,
ten or sixteen. Real numbers have a fraction or an exponent; one that is too
large for a double is refused if it is positive. Underscores may stand between
two digits.
-/

namespace DeviceLink.Toml

/-- Whole numbers lie from minus this number up to below it. -/
def wholeLimit : Int := 9223372036854775808

/-- The number of digits in a base. -/
def wholeOf (base : Nat) (digits : List Char) : Nat :=
  digits.foldl (fun value c => base * value + (Hex.value? c).getD 0) 0

/-- The double nearest to `digits * 10 ^ exponent` is infinite. -/
def isHuge (digits : Nat) (exponent : Int) : Bool :=
  let bound : Nat := Nat.pow 2 1024 - Nat.pow 2 970
  let magnitude : Int := (toString digits).length + exponent
  if digits = 0 then false
  else if 310 < magnitude then true
  else if magnitude < 309 then false
  else bound * Nat.pow 10 (-exponent).toNat ≤ digits * Nat.pow 10 exponent.toNat

namespace Scanner

/-- Take digits of a base, with single underscores between them. -/
def digitRun (accepts : Char → Bool) : Scanner (List Char) := do
  let first ← one accepts
  let others ← many do
    let _ ← perhaps (char '_')
    one accepts
  pure (first :: others)

/-- Take a sign; the value tells whether it is a minus. -/
def sign : Scanner Bool := do
  match ← perhaps (one fun c => c = '+' || c = '-') with
  | some c => pure (c = '-')
  | none => pure false

/-- Take the decimal digits of a whole number; only zero itself starts with a zero. -/
def decimalDigits : Scanner (List Char) :=
  (do
    char '0'
    pure ['0'])
  <|> (do
    let first ← one fun c => c.isDigit && c ≠ '0'
    let others ← many do
      let _ ← perhaps (char '_')
      one Char.isDigit
    pure (first :: others))

/-- Take a number with a mark for its base. -/
def marked (mark : String) (base : Nat) (accepts : Char → Bool) : Scanner Int := do
  word mark
  let digits ← digitRun accepts
  pure (wholeOf base digits)

/-- Take a decimal number with an optional sign. -/
def signed : Scanner Int := do
  let negative ← sign
  let digits ← decimalDigits
  let value : Int := wholeOf 10 digits
  pure (if negative then -value else value)

/-- Take a whole number. -/
def whole : Scanner Int := do
  let value ← marked "0x" 16 (fun c => (Hex.value? c).isSome)
    <|> marked "0o" 8 (fun c => '0' ≤ c && c ≤ '7')
    <|> marked "0b" 2 (fun c => c = '0' || c = '1')
    <|> signed
  if -wholeLimit ≤ value && value < wholeLimit then pure value else refuse

/-- Take an exponent. -/
def exponent : Scanner Int := do
  let _ ← one fun c => c = 'e' || c = 'E'
  let negative ← sign
  let digits ← digitRun Char.isDigit
  let value : Int := wholeOf 10 digits
  pure (if negative then -value else value)

/-- Take a fraction. -/
def fraction : Scanner (List Char) := do
  char '.'
  digitRun Char.isDigit

/-- Take a real number in decimal digits. -/
def decimalReal : Scanner Unit := do
  let negative ← sign
  let before ← decimalDigits
  let behind ← perhaps fraction
  let power ← perhaps exponent
  if behind.isNone && power.isNone then refuse
  else
    let places := behind.getD []
    let digits := wholeOf 10 (before ++ places)
    if !negative && isHuge digits (power.getD 0 - places.length) then refuse else pure ()

/-- Take a real number. -/
def real : Scanner Unit :=
  decimalReal
  <|> (do
    let _ ← sign
    word "inf" <|> word "nan")

end Scanner

end DeviceLink.Toml
