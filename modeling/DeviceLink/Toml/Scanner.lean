/-!
# Scanners

A scanner takes a value off the front of a text, or refuses the text. All
scanners are total: repetition goes on only while the text gets shorter.
-/

namespace DeviceLink.Toml

/-- Takes a value off the front of a text. -/
def Scanner (α : Type) : Type :=
  List Char → Option (α × List Char)

namespace Scanner

variable {α β : Type}

/-- Take nothing. -/
protected def pure (value : α) : Scanner α :=
  fun text => some (value, text)

/-- One scanner after another. -/
protected def bind (first : Scanner α) (next : α → Scanner β) : Scanner β :=
  fun text =>
    match first text with
    | some (value, rest) => next value rest
    | none => none

instance : Monad Scanner where
  pure := Scanner.pure
  bind := Scanner.bind

/-- Refuse every text. -/
def refuse : Scanner α := fun _ => none

/-- The first of two scanners that does not refuse the text. -/
protected def orElse (first : Scanner α) (second : Unit → Scanner α) : Scanner α :=
  fun text =>
    match first text with
    | some found => some found
    | none => second () text

instance : OrElse (Scanner α) where
  orElse := Scanner.orElse

/-- The value if there is one. -/
def ofOption : Option α → Scanner α
  | some value => Scanner.pure value
  | none => refuse

/-- Take one character that is accepted. -/
def one (accepts : Char → Bool) : Scanner Char
  | c :: rest => if accepts c then some (c, rest) else none
  | [] => none

/-- Take the given character. -/
def char (c : Char) : Scanner Unit
  | d :: rest => if d = c then some ((), rest) else none
  | [] => none

/-- Take the given characters. -/
def word (letters : String) : Scanner Unit := fun text =>
  if letters.toList.isPrefixOf text then some ((), text.drop letters.length) else none

/-- Take all characters in a row that are accepted. -/
def span (accepts : Char → Bool) : Scanner (List Char) := fun text =>
  some (text.takeWhile accepts, text.dropWhile accepts)

/-- Accept only the end of the text. -/
def finished : Scanner Unit
  | [] => some ((), [])
  | _ :: _ => none

/-- Take a value if there is one. -/
def perhaps (scan : Scanner α) : Scanner (Option α) := fun text =>
  match scan text with
  | some (value, rest) => some (some value, rest)
  | none => some (none, text)

/-- Take values as long as each shortens the text. -/
def many (scan : Scanner α) : Scanner (List α) := fun text =>
  match scan text with
  | none => some ([], text)
  | some (value, rest) =>
      if rest.length < text.length then
        match many scan rest with
        | some (values, rest) => some (value :: values, rest)
        | none => some ([value], rest)
      else some ([], text)
termination_by text => text.length

/-- Take at least one value. -/
def manyOne (scan : Scanner α) : Scanner (List α) := do
  let first ← scan
  let others ← many scan
  pure (first :: others)

/-- Take values with a separator between each two. -/
def separated (scan : Scanner α) (separator : Scanner Unit) : Scanner (List α) := do
  let first ← scan
  let others ← many do
    separator
    scan
  pure (first :: others)

/-- Take the given number of accepted characters. -/
def exactly (accepts : Char → Bool) : Nat → Scanner (List Char)
  | 0 => pure []
  | count + 1 => do
      let first ← one accepts
      let others ← exactly accepts count
      pure (first :: others)

end Scanner

end DeviceLink.Toml
