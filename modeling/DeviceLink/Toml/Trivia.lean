import DeviceLink.Toml.Scanner

/-!
# Blanks, comments and line ends

Blanks and tabs may stand between the parts of a line, and a comment may end
it. Between the items of a list line ends count as blanks.
-/

namespace DeviceLink.Toml

/-- The character is a blank or a tab. -/
def isBlank (c : Char) : Bool :=
  c = ' ' || c = '\t'

/-- The character may stand in text that is not quoted: no control character but the tab. -/
def isPlain (c : Char) : Bool :=
  c = '\t' || (0x20 ≤ c.toNat && c.toNat ≠ 0x7F)

namespace Scanner

/-- Take blanks. -/
def blanks : Scanner Unit := do
  let _ ← span isBlank

/-- Take one line end. -/
def newline : Scanner Unit :=
  char '\n' <|> word "\r\n"

/-- Take a comment, without the line end behind it. -/
def comment : Scanner Unit := do
  char '#'
  let _ ← span isPlain

/-- Take what may stand behind the last part of a line, and the line end. -/
def lineEnd : Scanner Unit := do
  blanks
  let _ ← perhaps comment
  newline <|> finished

/-- Take blanks, comments and line ends. -/
def gaps : Scanner Unit := do
  let _ ← many ((do let _ ← one isBlank) <|> newline <|> comment)

end Scanner

end DeviceLink.Toml
