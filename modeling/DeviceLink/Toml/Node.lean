/-!
# Tables under construction

A document grows table by table. Each table remembers how it came to be, which
decides what may be added to it later: a header may define a table once, dotted
keys may extend only tables that came from dotted keys or were implied by a
header, and a table written inline is complete.
-/

namespace DeviceLink.Toml

/-- How a table came to be. -/
inductive Origin
  | implied
  | dotted
  | written
  | inline
  deriving DecidableEq, Inhabited

/-- A value of a document. Reals and moments keep no more than their kind. -/
inductive Node
  | text (value : String)
  | integer (value : Int)
  | real
  | truth (value : Bool)
  | moment
  | list (items : List Node)
  | rows (tables : List (List (String × Node)))
  | table (origin : Origin) (fields : List (String × Node))
  deriving Inhabited

/-- The fields of a table, in the order in which they were added. -/
abbrev Table : Type := List (String × Node)

namespace Table

/-- The node of a field. -/
def find? (fields : Table) (key : String) : Option Node :=
  fields.lookup key

/-- The table with another node for one of its fields. -/
def replace (key : String) (node : Node) (fields : Table) : Table :=
  fields.map fun field => if field.1 = key then (key, node) else field

/-- The table with a new field; absent if the field is taken. -/
def insertNew? (key : String) (node : Node) (fields : Table) : Option Table :=
  match fields.find? key with
  | some _ => none
  | none => some (fields ++ [(key, node)])

/-- Change the last of some tables. -/
def changeLast (change : Table → Option Table) : List Table → Option (List Table)
  | [] => none
  | [last] => do
      let changed ← change last
      pure [changed]
  | first :: second :: rest => do
      let others ← changeLast change (second :: rest)
      pure (first :: others)

/-- Add a field below a path of dotted keys; the path is not empty where it starts. -/
def insertDotted (key : String) (node : Node) : List String → Origin → Table → Option Table
  | [], origin, fields => if origin = .dotted then fields.insertNew? key node else none
  | step :: path, _, fields =>
      match fields.find? step with
      | none => do
          let inner ← insertDotted key node path .dotted []
          pure (fields ++ [(step, .table .dotted inner)])
      | some (.table .written _) => none
      | some (.table .inline _) => none
      | some (.table origin inner) => do
          let inner ← insertDotted key node path origin inner
          pure (fields.replace step (.table origin inner))
      | some (.rows tables) => do
          let tables ← changeLast (insertDotted key node path .written) tables
          pure (fields.replace step (.rows tables))
      | some _ => none

/-- Add a field under a dotted key, given as the path before the last part and that part. -/
def insertAt? (path : List String) (key : String) (node : Node) (fields : Table) : Option Table :=
  match path with
  | [] => fields.insertNew? key node
  | path => insertDotted key node path .written fields

/-- Change the table that a header path leads to; tables on the way are implied. -/
def within (change : Table → Option Table) : List String → Table → Option Table
  | [], fields => change fields
  | step :: path, fields =>
      match fields.find? step with
      | none => do
          let inner ← within change path []
          pure (fields ++ [(step, .table .implied inner)])
      | some (.table .inline _) => none
      | some (.table origin inner) => do
          let inner ← within change path inner
          pure (fields.replace step (.table origin inner))
      | some (.rows tables) => do
          let tables ← changeLast (within change path) tables
          pure (fields.replace step (.rows tables))
      | some _ => none

/-- Define a table; one that was only implied so far keeps its fields. -/
def define (key : String) (fields : Table) : Option Table :=
  match fields.find? key with
  | none => some (fields ++ [(key, .table .written [])])
  | some (.table .implied inner) => some (fields.replace key (.table .written inner))
  | some _ => none

/-- Start the next table of an array of tables. -/
def addRow (key : String) (fields : Table) : Option Table :=
  match fields.find? key with
  | none => some (fields ++ [(key, .rows [[]])])
  | some (.rows tables) => some (fields.replace key (.rows (tables ++ [[]])))
  | some _ => none

end Table

end DeviceLink.Toml
