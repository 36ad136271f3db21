import DeviceLink.Text.Hex
import DeviceLink.Toml.Trivia

/-!
# Quoted text

Text in double quotes has escapes, text in single quotes has none. Three
quotes open a text that may span lines; a line end right behind them does not
count, and up to two quotes may stand anywhere inside, also at the end.
-/

namespace DeviceLink.Toml

/-- The single quote. -/
def apostrophe : Char := Char.ofNat 39

namespace Scanner

/-- The character of a code point given in hexadecimal digits. -/
def codePoint (digits : Nat) : Scanner Char := do
  let shown ← exactly (fun c => (Hex.value? c).isSome) digits
  let value := shown.foldl (fun value c => 16 * value + (Hex.value? c).getD 0) 0
  if value.isValidChar then pure (Char.ofNat value) else refuse

/-- Take an escape sequence. -/
def escaped : Scanner Char := do
  char '\\'
  match ← one fun _ => true with
  | 'b' => pure (Char.ofNat 8)
  | 't' => pure '\t'
  | 'n' => pure '\n'
  | 'f' => pure (Char.ofNat 12)
  | 'r' => pure '\r'
  | '"' => pure '"'
  | '\\' => pure '\\'
  | 'u' => codePoint 4
  | 'U' => codePoint 8
  | _ => refuse

/-- Take a line end inside a text; every line end counts as a line feed. -/
def lineFeed : Scanner Char := do
  newline
  pure '\n'

/-- Take a backslash at the end of a line, with all blanks and line ends behind it. -/
def joinedLines : Scanner Unit := do
  char '\\'
  blanks
  newline
  let _ ← many ((do let _ ← one isBlank) <|> newline)

/-- Take quotes: a few that belong to the text, if fewer than three stand in a row. -/
def fewQuotes (quote : Char) : Scanner (List Char) := fun text =>
  match text.takeWhile (· == quote) with
  | [] => none
  | quotes => if quotes.length < 3 then some (quotes, text.drop quotes.length) else none

/-- Take the three closing quotes, and up to two before them that belong to the text. -/
def closingQuotes (quote : Char) : Scanner (List Char) := fun text =>
  let length := (text.takeWhile (· == quote)).length
  if length < 3 then none
  else some (text.take (min length 5 - 3), text.drop (min length 5))

/-- Take text in double quotes on one line. -/
def basicText : Scanner (List Char) := do
  char '"'
  let content ← many (one (fun c => isPlain c && c ≠ '"' && c ≠ '\\') <|> escaped)
  char '"'
  pure content

/-- Take text in single quotes on one line. -/
def literalText : Scanner (List Char) := do
  char apostrophe
  let content ← span fun c => isPlain c && c ≠ apostrophe
  char apostrophe
  pure content

/-- Take text between three double quotes. -/
def basicLines : Scanner (List Char) := do
  word "\"\"\""
  let _ ← perhaps newline
  let nothing : Scanner (List Char) := do
    joinedLines
    pure []
  let single : Scanner (List Char) := do
    let c ← one (fun c => isPlain c && c ≠ '"' && c ≠ '\\') <|> escaped <|> lineFeed
    pure [c]
  let content ← many (nothing <|> single <|> fewQuotes '"')
  let last ← closingQuotes '"'
  pure (content.flatten ++ last)

/-- Take text between three single quotes. -/
def literalLines : Scanner (List Char) := do
  word "'''"
  let _ ← perhaps newline
  let single : Scanner (List Char) := do
    let c ← one (fun c => isPlain c && c ≠ apostrophe) <|> lineFeed
    pure [c]
  let content ← many (single <|> fewQuotes apostrophe)
  let last ← closingQuotes apostrophe
  pure (content.flatten ++ last)

/-- Take quoted text of any form. -/
def quoted : Scanner String := do
  let content ← basicLines <|> literalLines <|> basicText <|> literalText
  pure (String.ofList content)

end Scanner

end DeviceLink.Toml
