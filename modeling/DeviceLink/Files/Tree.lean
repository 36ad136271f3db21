/-!
# File trees

A tree of files and directories under one root. Relative paths start at a
working directory below the root; an operation on a path fails with the reason
the operating system would give.
-/

namespace DeviceLink

/-- Why an operation on a file fails. -/
inductive FileFault
  | missing
  | occupied
  | notDirectory
  | isDirectory
  | badText
  | nulByte
  deriving DecidableEq, Inhabited

/-- The text of a file fault. -/
def FileFault.message : FileFault → String
  | missing => "No such file or directory (os error 2)"
  | occupied => "File exists (os error 17)"
  | notDirectory => "Not a directory (os error 20)"
  | isDirectory => "Is a directory (os error 21)"
  | badText => "stream did not contain valid UTF-8"
  | nulByte => "file name contained an unexpected NUL byte"

/-- The names on the way from the root of a tree. -/
abbrev Place : Type := List String

/-- What stands at a place. -/
inductive FileEntry
  | file (bytes : List UInt8)
  | directory
  deriving DecidableEq, Inhabited

/-- A tree of files. Every place above an entry is a directory. -/
structure FileTree where
  /-- Files and directories with their places. -/
  entries : List (Place × FileEntry)
  /-- The directory in which relative paths start. -/
  working : Place
  /-- The path of the whole tree. -/
  root : String := ""
  deriving DecidableEq, Inhabited

namespace FileTree

/-- What stands at a place, if anything does. -/
def at? (tree : FileTree) (place : Place) : Option FileEntry :=
  match tree.entries.lookup place with
  | some entry => some entry
  | none =>
      if tree.entries.any fun entry => place.isPrefixOf entry.1 then some .directory else none

/-- Follow the names of a path; all places but the last one have to be directories. -/
def follow (tree : FileTree) : Place → List String → Except FileFault Place
  | place, [] => .ok place
  | place, name :: names =>
      match tree.at? place with
      | none => .error .missing
      | some (.file _) => .error .notDirectory
      | some .directory =>
          if name = "" || name = "." then follow tree place names
          else if name = ".." then follow tree place.dropLast names
          else follow tree (place ++ [name]) names

/-- The path of a place. -/
def pathOf (tree : FileTree) (place : Place) : String :=
  tree.root ++ String.join (place.map ("/" ++ ·))

/-- The characters of a path behind the root of the tree, if it leads there. -/
def belowRoot? (tree : FileTree) (path : List Char) : Option (List Char) :=
  let root := tree.root.toList
  if root.isPrefixOf path then some (path.drop root.length) else none

/-- The place of a path. Absolute paths have to lead below the root of the tree. -/
def resolve (tree : FileTree) (path : String) : Except FileFault Place :=
  if path.any (· == Char.ofNat 0) then .error .nulByte
  else if path.isEmpty then .error .missing
  else if path.all (· == '/') then .ok []
  else if path.front = '/' then
    match tree.belowRoot? path.toList with
    | some below => tree.follow [] ((String.ofList below).splitOn "/")
    | none => .error .missing
  else tree.follow tree.working (path.splitOn "/")

/-- The bytes of the file at a place. -/
def readBytes (tree : FileTree) (place : Place) : Except FileFault (List UInt8) :=
  match tree.at? place with
  | some (.file bytes) => .ok bytes
  | some .directory => .error .isDirectory
  | none => .error .missing

/-- The text in bytes. -/
def textOf (bytes : List UInt8) : Except FileFault String :=
  match String.fromUTF8? ⟨bytes.toArray⟩ with
  | some text => .ok text
  | none => .error .badText

/-- The text of the file at a place. -/
def readText (tree : FileTree) (place : Place) : Except FileFault String := do
  let bytes ← tree.readBytes place
  textOf bytes

/-- The text of the file with a path. -/
def readPath (tree : FileTree) (path : String) : Except FileFault String := do
  let place ← tree.resolve path
  tree.readText place

/-- Something stands at a place. -/
def holds (tree : FileTree) (place : Place) : Bool :=
  (tree.at? place).isSome

/-- The tree with another entry at a place. -/
def put (tree : FileTree) (place : Place) (entry : FileEntry) : FileTree :=
  { tree with
    entries := tree.entries.filter (fun other => other.1 != place) ++ [(place, entry)] }

/-- Write a file in a directory that exists. -/
def write (tree : FileTree) (place : Place) (bytes : List UInt8) : Except FileFault FileTree :=
  match tree.at? place, tree.at? place.dropLast with
  | some .directory, _ => .error .isDirectory
  | _, some .directory => .ok (tree.put place (.file bytes))
  | _, some (.file _) => .error .notDirectory
  | _, none => .error .missing

/-- Write a text to a file. -/
def writeText (tree : FileTree) (place : Place) (text : String) : Except FileFault FileTree :=
  tree.write place text.toUTF8.toList

/-- A file stands somewhere above a place. -/
def blocked (tree : FileTree) (place : Place) : Bool :=
  tree.entries.any fun entry =>
    match entry.2 with
    | .file _ => entry.1.isPrefixOf place && entry.1 != place
    | .directory => false

/-- Make a directory, and those above it that are not there. -/
def makeDirectories (tree : FileTree) (place : Place) : Except FileFault FileTree :=
  if tree.blocked place then .error .notDirectory
  else
    match tree.at? place with
    | some .directory => .ok tree
    | some (.file _) => .error .occupied
    | none => .ok (tree.put place .directory)

/-- The places of all files with their bytes. -/
def files (tree : FileTree) : List (Place × List UInt8) :=
  tree.entries.filterMap fun entry =>
    match entry.2 with
    | .file bytes => some (entry.1, bytes)
    | .directory => none

end FileTree

end DeviceLink
