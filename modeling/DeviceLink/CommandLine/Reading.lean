import DeviceLink.CommandLine.Level

/-!
# Reading a command line

The command and the words behind its name are read completely before what
stands in front of the name is checked. The value of a global option is the
one behind the command, unless the one in front of it has a stronger source.
-/

namespace DeviceLink.CommandLine

/-- A command line that was read: the command and the values of its parameters. -/
structure Invocation where
  /-- The name of the command. -/
  command : String
  /-- The values of its parameters and of the global options. -/
  values : GivenValues
  deriving DecidableEq, Inhabited

namespace Invocation

/-- The value of a parameter. -/
def value? (invocation : Invocation) (id : String) : Option Argument :=
  (invocation.values.lookup id).map Given.value

/-- The text of a parameter. -/
def text? (invocation : Invocation) (id : String) : Option String :=
  match invocation.value? id with
  | some (.text value) => some value
  | _ => none

/-- The number of a parameter. -/
def number? (invocation : Invocation) (id : String) : Option Nat :=
  match invocation.value? id with
  | some (.number value) => some value
  | _ => none

/-- The bytes of a parameter. -/
def bytes? (invocation : Invocation) (id : String) : Option (List UInt8) :=
  match invocation.value? id with
  | some (.bytes value) => some value
  | _ => none

/-- The switch is on. -/
def isOn (invocation : Invocation) (id : String) : Bool :=
  invocation.value? id == some (.truth true)

end Invocation

namespace Grammar

/-- Ask for help about the command that the words name; the help command itself has none. -/
def askHelp (grammar : Grammar) : List String → UsageFault
  | [] => .helpAsked
  | [name] => if grammar.commandNames.contains name then .helpAsked else .unknownCommand
  | _ => .unknownCommand

/-- Read the words behind the name of a command. -/
def readInner
    (grammar : Grammar)
    (environment : Environment)
    (name : String)
    (words : List String) : Except UsageFault Invocation :=
  match grammar.command? name with
  | none => .error (grammar.askHelp words)
  | some command => do
      let parameters := grammar.innerParameters command
      let (level, _) ← Level.consume parameters [] words (.start parameters)
      let level ← level.complete parameters environment
      level.check parameters
      pure ⟨name, level.values⟩

/-- The stronger of the values of a global option; the inner one if they are equally strong. -/
def stronger (outer inner : Option Given) : Option Given :=
  match outer, inner with
  | some outer, some inner => if inner.origin.rank < outer.origin.rank then some outer else some inner
  | outer, none => outer
  | none, inner => inner

/-- The values of a command with those of the global options in front of it. -/
def merge (grammar : Grammar) (outer : Level) (inner : Invocation) : Invocation :=
  let globals := grammar.globals.filterMap fun parameter =>
    (stronger (outer.values.lookup parameter.id) (inner.values.lookup parameter.id)).map
      (parameter.id, ·)
  { inner with values := globals ++ inner.values }

/-- A command line that names no command. -/
def withoutCommand (grammar : Grammar) (level : Level) : UsageFault :=
  if grammar.outerParameters.any level.chosen then .missingCommand else .nothingGiven

/-- Read a command line. -/
def read
    (grammar : Grammar)
    (environment : Environment)
    (words : List String) : Except UsageFault Invocation := do
  let parameters := grammar.outerParameters
  let (level, rest) ← Level.consume parameters grammar.commandNames words (.start parameters)
  match rest with
  | none => do
      let level ← level.complete parameters environment
      throw (grammar.withoutCommand level)
  | some (name, words) => do
      let inner ← grammar.readInner environment name words
      let outer ← level.complete parameters environment
      outer.check parameters
      pure (grammar.merge outer inner)

end Grammar

end DeviceLink.CommandLine
