import DeviceLink.Text.HexInput

/-!
# Arguments

An argument is a word of a command line that stands for a value. Its form says
which words are allowed: numbers below a bound, hexadecimal bytes or words, one
of several names, or any text.
-/

namespace DeviceLink.CommandLine

/-- Why a command line is not carried out. The first three only ask for information. -/
inductive UsageFault
  | helpAsked
  | versionAsked
  | nothingGiven
  | missingCommand
  | unknownCommand
  | unknownArgument
  | excessValue
  | badChoice
  | badValue
  | conflict
  | missingArgument
  deriving DecidableEq, Inhabited

/-- The exit code for a command line that is not carried out. -/
def UsageFault.exitCode : UsageFault → UInt8
  | helpAsked => 0
  | versionAsked => 0
  | _ => 2

/-- The value of an argument. -/
inductive Argument
  | text (value : String)
  | number (value : Nat)
  | bytes (value : List UInt8)
  | truth (value : Bool)
  deriving DecidableEq, Inhabited

/-- The words allowed for an argument. -/
inductive ArgumentForm
  | text
  | nonempty
  | count (bound : Nat)
  | signedCount (bound : Nat)
  | bytes
  | word
  | choice (names : List String)
  | truth
  deriving DecidableEq, Inhabited

/-- The number in decimal digits, of which there has to be at least one. -/
def digitsValue? : List Char → Option Nat
  | [] => none
  | digits =>
      if digits.all Char.isDigit then
        some (digits.foldl (fun value digit => 10 * value + (digit.toNat - 48)) 0)
      else none

/-- The number in decimal digits with an optional plus sign before them. -/
def countValue? : List Char → Option Nat
  | '+' :: digits => digitsValue? digits
  | digits => digitsValue? digits

/-- The number in decimal digits with an optional sign; a minus sign only suits zero. -/
def signedCountValue? : List Char → Option Nat
  | '-' :: digits => (digitsValue? digits).filter (· = 0)
  | digits => countValue? digits

/-- The value of a word in this form. -/
def ArgumentForm.read (form : ArgumentForm) (word : String) : Except UsageFault Argument :=
  let number := fun (value? : Option Nat) =>
    match value? with
    | some value => Except.ok (Argument.number value)
    | none => .error .badValue
  match form with
  | text => .ok (.text word)
  | nonempty => if word.isEmpty then .error .badChoice else .ok (.text word)
  | count bound => number ((countValue? word.toList).filter (· < bound))
  | signedCount bound => number ((signedCountValue? word.toList).filter (· < bound))
  | bytes =>
      match Hex.readBytes word with
      | .ok values => .ok (.bytes values)
      | .error _ => .error .badValue
  | .word =>
      match Hex.readWord word with
      | .ok value => .ok (.number value.toNat)
      | .error _ => .error .badValue
  | choice names => if names.contains word then .ok (.text word) else .error .badChoice
  | truth =>
      if word = "true" then .ok (.truth true)
      else if word = "false" then .ok (.truth false)
      else .error .badChoice

/-! ### Kinds of words -/

/-- What a word of a command line looks like. -/
inductive Word
  | escape
  | long (name : String) (value : Option String)
  | cluster (letters : List Char)
  | plain
  deriving DecidableEq, Inhabited

/-- A text behind two dashes: the name of an option, and a value behind the first equals sign. -/
def Word.ofLong (text : List Char) : Word :=
  let name := String.ofList (text.takeWhile (· != '='))
  match text.dropWhile (· != '=') with
  | [] => long name none
  | _ :: value => long name (some (String.ofList value))

/-- The look of a word: dashes before a name or before letters make it an option. -/
def Word.ofText (text : String) : Word :=
  match text.toList with
  | ['-', '-'] => escape
  | '-' :: '-' :: rest => ofLong rest
  | '-' :: letter :: letters => cluster (letter :: letters)
  | _ => plain

end DeviceLink.CommandLine
