import DeviceLink.Text.Blank
import DeviceLink.Text.Hex

/-!
# Hexadecimal input

Bytes and 16-bit words as people type them. Bytes come in tokens of digit
pairs that blanks or commas keep apart. A word may have underscores between
its digits and a plus sign before them. A token and a word may start with the
mark `0x`.
-/

namespace DeviceLink.Hex

/-- The text without one leading mark `0x` or `0X`. -/
def withoutMark : List Char → List Char
  | '0' :: 'x' :: rest => rest
  | '0' :: 'X' :: rest => rest
  | digits => digits

/-! ### Bytes -/

/-- Why a text is no list of bytes. -/
inductive BytesFault
  | notDigits (token : String)
  | oddDigits (token : String)
  | empty
  deriving DecidableEq, Inhabited

/-- The text of a fault in a list of bytes. -/
def BytesFault.message : BytesFault → String
  | .notDigits token => "Invalid hex bytes: " ++ token
  | .oddDigits token => "Odd number of hex digits: " ++ token
  | .empty => "Expected at least one byte"

/-- The character keeps two tokens apart. -/
def separates (c : Char) : Bool :=
  Text.isBlank c || c == ','

/-- Put a character in front of the first token. -/
def extendFirst (c : Char) : List (List Char) → List (List Char)
  | [] => [[c]]
  | token :: tokens => (c :: token) :: tokens

/-- The parts of a text between separators, some of which may be empty. -/
def parts : List Char → List (List Char)
  | [] => [[]]
  | c :: rest => if separates c then [] :: parts rest else extendFirst c (parts rest)

/-- The tokens of a text. -/
def tokens (text : List Char) : List (List Char) :=
  (parts text).filter fun token => !token.isEmpty

/-- The bytes of one token. -/
def readToken (token : List Char) : Except BytesFault (List UInt8) :=
  let digits := withoutMark token
  if digits.isEmpty || digits.any (fun c => (value? c).isNone) then
    .error (.notDigits (String.ofList token))
  else
    match bytes? digits with
    | none => .error (.oddDigits (String.ofList token))
    | some values => .ok values

/-- The bytes of tokens in order; the first faulty token decides. -/
def readTokens : List (List Char) → Except BytesFault (List UInt8)
  | [] => .ok []
  | token :: tokens => do
      let first ← readToken token
      let others ← readTokens tokens
      pure (first ++ others)

/-- The bytes of a text; there has to be at least one. -/
def readBytes (text : String) : Except BytesFault (List UInt8) :=
  match readTokens (tokens text.toList) with
  | .error fault => .error fault
  | .ok [] => .error .empty
  | .ok (first :: others) => .ok (first :: others)

/-! ### Words -/

/-- Why a text is no 16-bit word. -/
inductive WordFault
  | noDigits
  | badDigit
  | tooLarge
  deriving DecidableEq, Inhabited

/-- The text of a fault in a word. -/
def WordFault.message : WordFault → String
  | .noDigits => "cannot parse integer from empty string"
  | .badDigit => "invalid digit found in string"
  | .tooLarge => "number too large to fit in target type"

/-- Read digits behind those that make up `value`; the first fault from the left decides. -/
def readDigits (value : Nat) : List Char → Except WordFault Nat
  | [] => .ok value
  | c :: rest =>
      match value? c with
      | none => .error .badDigit
      | some digit =>
          if 16 * value + digit < 65536 then readDigits (16 * value + digit) rest
          else .error .tooLarge

/-- Read digits with an optional plus sign before them. -/
def readSigned : List Char → Except WordFault Nat
  | [] => .error .noDigits
  | ['+'] => .error .badDigit
  | '+' :: digits => readDigits 0 digits
  | digits => readDigits 0 digits

/-- The digits of a word, without blanks around them, underscores and a mark. -/
def wordDigits (text : List Char) : List Char :=
  withoutMark ((Text.trimmed text).filter (· != '_'))

/-- The word of a text. -/
def readWord (text : String) : Except WordFault UInt16 := do
  let value ← readSigned (wordDigits text.toList)
  pure (UInt16.ofNat value)

/-- The message for a text that is no word. -/
def wordMessage (text : String) (fault : WordFault) : String :=
  "Invalid hex id '" ++ text ++ "': " ++ fault.message

end DeviceLink.Hex
