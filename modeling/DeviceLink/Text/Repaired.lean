/-!
# Text from damaged bytes

Bytes are read as UTF-8. Where they are not, one replacement character stands
for each longest run of bytes that begins a character without completing it.
-/

namespace DeviceLink.Text

/-- The character that stands for bytes that are not text. -/
def replacement : Char := Char.ofNat 0xFFFD

/-- A character with bytes still to come, of which the next one is bounded. -/
structure Unfinished where
  /-- The bits of the character so far. -/
  value : Nat
  /-- The number of bytes to come. -/
  missing : Nat
  /-- The least that the next byte may be. -/
  least : Nat := 0x80
  /-- The most that the next byte may be. -/
  most : Nat := 0xBF
  deriving DecidableEq, Inhabited

/-- Read a byte where a character begins. -/
def beginChar (byte : Nat) : List Char × Option Unfinished :=
  if byte < 0x80 then ([Char.ofNat byte], none)
  else if byte < 0xC2 then ([replacement], none)
  else if byte < 0xE0 then ([], some { value := byte - 0xC0, missing := 1 })
  else if byte = 0xE0 then ([], some { value := 0, missing := 2, least := 0xA0 })
  else if byte = 0xED then ([], some { value := 0xD, missing := 2, most := 0x9F })
  else if byte < 0xF0 then ([], some { value := byte - 0xE0, missing := 2 })
  else if byte = 0xF0 then ([], some { value := 0, missing := 3, least := 0x90 })
  else if byte < 0xF4 then ([], some { value := byte - 0xF0, missing := 3 })
  else if byte = 0xF4 then ([], some { value := 4, missing := 3, most := 0x8F })
  else ([replacement], none)

/-- Read the next byte of a character; one that does not fit begins another character. -/
def continueChar (char : Unfinished) (byte : Nat) : List Char × Option Unfinished :=
  if char.least ≤ byte ∧ byte ≤ char.most then
    let value := 64 * char.value + (byte - 0x80)
    if char.missing ≤ 1 then ([Char.ofNat value], none)
    else ([], some { value := value, missing := char.missing - 1 })
  else
    let (begun, next) := beginChar byte
    (replacement :: begun, next)

/-- The characters of bytes that follow an unfinished character, if there is one. -/
def repairedChars : Option Unfinished → List UInt8 → List Char
  | none, [] => []
  | some _, [] => [replacement]
  | none, byte :: rest =>
      let (done, next) := beginChar byte.toNat
      done ++ repairedChars next rest
  | some char, byte :: rest =>
      let (done, next) := continueChar char byte.toNat
      done ++ repairedChars next rest

/-- The text of bytes, repaired where they are not UTF-8. -/
def repaired (bytes : List UInt8) : String :=
  String.ofList (repairedChars none bytes)

end DeviceLink.Text
