/-!
# JSON values and their text

The text of a value has one item or field a line, two blanks deeper for each
level. A record shows its fields in the order that it keeps them in.
-/

namespace DeviceLink

/-- A JSON value. -/
inductive Json
  | null
  | bool (value : Bool)
  | integer (value : Int)
  | fraction (digits : Int) (places : Nat)
  | string (value : String)
  | list (items : List Json)
  | record (fields : List (String × Json))
  deriving Inhabited

namespace Json

/-- A natural number as a value. -/
def natural (value : Nat) : Json := integer value

/-- The characters a character is written with inside quotes. -/
def escape (c : Char) : List Char :=
  if c = '"' then ['\\', '"']
  else if c = '\\' then ['\\', '\\']
  else if c.toNat = 8 then ['\\', 'b']
  else if c.toNat = 9 then ['\\', 't']
  else if c.toNat = 10 then ['\\', 'n']
  else if c.toNat = 12 then ['\\', 'f']
  else if c.toNat = 13 then ['\\', 'r']
  else if c.toNat < 32 then
    ['\\', 'u', '0', '0', Nat.digitChar (c.toNat / 16), Nat.digitChar (c.toNat % 16)]
  else [c]

/-- A text in quotes. -/
def quoted (text : String) : String :=
  "\"" ++ String.ofList (text.toList.flatMap escape) ++ "\""

/-- A decimal fraction with its digits behind the point. -/
def fractionText (digits : Int) (places : Nat) : String :=
  let shown := (toString digits.natAbs).toList
  let shown := List.replicate (places + 1 - shown.length) '0' ++ shown
  (if digits < 0 then "-" else "")
    ++ String.ofList (shown.take (shown.length - places)) ++ "."
    ++ String.ofList (shown.drop (shown.length - places))

/-- The start of a new line at a level. -/
def newLine (level : Nat) : String :=
  "\n" ++ String.ofList (List.replicate (2 * level) ' ')

/-- Lines between two brackets, or the brackets alone. -/
def enclosed (opening closing : String) (level : Nat) : List String → String
  | [] => opening ++ closing
  | lines =>
      opening ++ ",".intercalate (lines.map fun line => newLine (level + 1) ++ line)
        ++ newLine level ++ closing

mutual

/-- The text of a value that starts at a level. -/
def textAt (level : Nat) : Json → String
  | null => "null"
  | bool value => if value then "true" else "false"
  | integer value => toString value
  | fraction digits places => fractionText digits places
  | string value => quoted value
  | list items => enclosed "[" "]" level (itemTexts (level + 1) items)
  | record fields => enclosed "\x7b" "\x7d" level (fieldTexts (level + 1) fields)

/-- The texts of the items of a list. -/
def itemTexts (level : Nat) : List Json → List String
  | [] => []
  | item :: items => textAt level item :: itemTexts level items

/-- The texts of the fields of a record. -/
def fieldTexts (level : Nat) : List (String × Json) → List String
  | [] => []
  | (name, value) :: fields =>
      (quoted name ++ ": " ++ textAt level value) :: fieldTexts level fields

end

/-- The text of a value. -/
def text (value : Json) : String :=
  value.textAt 0

end Json

end DeviceLink
