import DeviceLink.Toml.Value

/-!
# Documents

A document is a list of statements: headers of tables, headers of the next
table of an array, and fields. Reading a document first takes the statements
off the text and then builds the table they describe.
-/

namespace DeviceLink.Toml

/-- One statement of a document. -/
inductive Statement
  | header (path : List String) (name : String)
  | row (path : List String) (name : String)
  | field (path : List String) (name : String) (node : Node)

namespace Scanner

/-- Take a header. -/
def header : Scanner Statement :=
  (do
    word "[["
    let (path, name) ← key
    word "]]"
    lineEnd
    pure (.row path name))
  <|> (do
    char '['
    let (path, name) ← key
    char ']'
    lineEnd
    pure (.header path name))

/-- Take a field. -/
def field : Scanner Statement := do
  let (place, node) ← pair (value (nestingLimit - 1))
  lineEnd
  pure (.field place.1 place.2 node)

/-- Take a line without a statement. -/
def emptyLine : Scanner Unit := do
  blanks
  let _ ← perhaps comment
  newline

/-- Take a statement, after any lines without one. -/
def statement : Scanner Statement := do
  let _ ← many emptyLine
  blanks
  header <|> field

/-- Take all statements up to the end of the text. -/
def statements : Scanner (List Statement) := do
  let _ ← perhaps (char (Char.ofNat 0xFEFF))
  let found ← many statement
  let _ ← many emptyLine
  lineEnd
  pure found

end Scanner

/-- A document under construction: its table, and where fields are added. -/
structure Draft where
  /-- The table so far. -/
  table : Table := []
  /-- The path of the table that fields are added to. -/
  place : List String := []

/-- Add a statement to a draft. -/
def Draft.add (draft : Draft) : Statement → Option Draft
  | .header path name => do
      let table ← Table.within (Table.define name) path draft.table
      pure { table := table, place := path ++ [name] }
  | .row path name => do
      let table ← Table.within (Table.addRow name) path draft.table
      pure { table := table, place := path ++ [name] }
  | .field path name node => do
      let table ← Table.within (Table.insertAt? path name node) draft.place draft.table
      pure { draft with table := table }

/-- The table of a document, absent when the text is not one. -/
def parse? (text : String) : Option Table := do
  let (statements, _) ← Scanner.statements text.toList
  let draft ← statements.foldlM Draft.add {}
  pure draft.table

end DeviceLink.Toml
