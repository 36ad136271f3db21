import DeviceLink.Toml.Moment
import DeviceLink.Toml.Node
import DeviceLink.Toml.Quoted

/-!
# Keys and values

A key is bare or quoted, and dots join keys to a path. Values are texts,
numbers, truth values, moments, lists and inline tables, nested up to a limit.
-/

namespace DeviceLink.Toml

/-- Lists, inline tables and dotted keys have fewer levels than this. -/
def nestingLimit : Nat := 80

namespace Scanner

/-- Take one part of a key. -/
def keyPart : Scanner String :=
  (do
    let content ← basicText <|> literalText
    pure (String.ofList content))
  <|> (do
    let content ← manyOne (one fun c => c.isAlphanum || c = '_' || c = '-')
    pure (String.ofList content))

/-- Take a key of parts that dots join, as the path before the last part and that part. -/
def key : Scanner (List String × String) := do
  let parts ← separated
    (do
      blanks
      let part ← keyPart
      blanks
      pure part)
    (char '.')
  if parts.length < nestingLimit then
    match parts.getLast? with
    | some last => pure (parts.dropLast, last)
    | none => refuse
  else refuse

/-- Take a value without parts. -/
def scalar : Scanner Node :=
  (do pure (.text (← quoted)))
  <|> (do moment; pure .moment)
  <|> (do real; pure .real)
  <|> (do pure (.integer (← whole)))
  <|> (do word "true"; pure (.truth true))
  <|> (do word "false"; pure (.truth false))

/-- Take the items of a list up to its end; a comma may stand behind the last one. -/
def listItems (item : Scanner Node) : Scanner (List Node) := do
  let items ← perhaps do
    let items ← separated
      (do
        gaps
        let node ← item
        gaps
        pure node)
      (char ',')
    let _ ← perhaps (char ',')
    pure items
  gaps
  char ']'
  pure (items.getD [])

/-- Take a key with its value. -/
def pair (value : Scanner Node) : Scanner ((List String × String) × Node) := do
  let place ← key
  char '='
  blanks
  let node ← value
  blanks
  pure (place, node)

/-- Take the pairs of an inline table up to its end. -/
def inlineFields (value : Scanner Node) : Scanner Table := do
  let pairs ← perhaps (separated (pair value) (char ','))
  blanks
  char '\x7d'
  let fields := (pairs.getD []).foldlM (fun (fields : Table) entry =>
    fields.insertAt? entry.1.1 entry.1.2 entry.2) []
  ofOption fields

/-- Take a value with at most so many levels of lists and inline tables. -/
def value : Nat → Scanner Node
  | 0 => scalar
  | levels + 1 =>
      (do
        char '['
        let items ← listItems (value levels)
        pure (.list items))
      <|> (do
        char '\x7b'
        let fields ← inlineFields (value levels)
        pure (.table .inline fields))
      <|> scalar

end Scanner

end DeviceLink.Toml
