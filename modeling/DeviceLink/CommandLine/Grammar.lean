import DeviceLink.CommandLine.Argument

/-!
# Grammars of command lines

A command line has global options and one command with options and operands of
its own. Global options may stand before and behind the name of the command.
-/

namespace DeviceLink.CommandLine

/-- What an option does. -/
inductive Effect
  | set (form : ArgumentForm)
  | mark
  | count
  | showHelp
  | showVersion
  deriving DecidableEq, Inhabited

/-- An option, or an operand if it has neither a long nor a short name. -/
structure Parameter where
  /-- The name under which the value is kept, and under which other parameters mention this one. -/
  id : String
  /-- The name behind two hyphens, if there is one. -/
  long : Option String := none
  /-- The letter behind one hyphen, if there is one. -/
  short : Option Char := none
  /-- What happens when the parameter is given. -/
  effect : Effect
  /-- The variable of the environment that may hold the value. -/
  environment : Option String := none
  /-- The value when none is given. -/
  default : Option Argument := none
  /-- The parameter has to be given. -/
  required : Bool := false
  /-- The parameters that have to be given along with this one. -/
  requires : List String := []
  /-- The parameters that must not be given along with this one. -/
  excludes : List String := []
  deriving DecidableEq, Inhabited

namespace Parameter

/-- A parameter without a name, found by its position. -/
def isOperand (parameter : Parameter) : Bool :=
  parameter.long.isNone && parameter.short.isNone

/-- The parameter takes a value. -/
def takesValue (parameter : Parameter) : Bool :=
  match parameter.effect with
  | .set _ => true
  | _ => false

/-- The value of a parameter that is given nowhere. -/
def initial? (parameter : Parameter) : Option Argument :=
  match parameter.effect with
  | .set _ => parameter.default
  | .mark => some (.truth false)
  | .count => some (.number 0)
  | .showHelp => none
  | .showVersion => none

/-- The option `--name` with a value. -/
def option (id : String) (form : ArgumentForm) : Parameter where
  id := id
  long := some id
  effect := .set form

/-- The option `--name` without a value. -/
def switch (id : String) : Parameter where
  id := id
  long := some id
  effect := .mark

/-- An operand. -/
def operand (id : String) (form : ArgumentForm) : Parameter where
  id := id
  effect := .set form

/-- The options every command has. -/
def builtin : List Parameter :=
  [ { id := "help", long := some "help", short := some 'h', effect := .showHelp },
    { id := "version", long := some "version", short := some 'V', effect := .showVersion } ]

/-- One of the parameters rules out the other. -/
def clashes (first second : Parameter) : Bool :=
  first.excludes.contains second.id || second.excludes.contains first.id

end Parameter

/-- A command with its own parameters. -/
structure CommandGrammar where
  /-- The word that names the command. -/
  name : String
  /-- The options and operands of the command. -/
  parameters : List Parameter
  deriving DecidableEq, Inhabited

/-- A grammar of command lines. -/
structure Grammar where
  /-- The options that may stand on either side of the name of the command. -/
  globals : List Parameter
  /-- The commands, one of which is given. -/
  commands : List CommandGrammar
  deriving DecidableEq, Inhabited

namespace Grammar

/-- The name of the command that asks for help. -/
def helpName : String := "help"

/-- The names that may stand in the place of a command. -/
def commandNames (grammar : Grammar) : List String :=
  grammar.commands.map CommandGrammar.name ++ [helpName]

/-- The command of a name. -/
def command? (grammar : Grammar) (name : String) : Option CommandGrammar :=
  grammar.commands.find? fun command => command.name == name

/-- The parameters in front of the command. -/
def outerParameters (grammar : Grammar) : List Parameter :=
  grammar.globals ++ Parameter.builtin

/-- The parameters behind the name of a command. -/
def innerParameters (grammar : Grammar) (command : CommandGrammar) : List Parameter :=
  command.parameters ++ grammar.globals ++ Parameter.builtin

end Grammar

end DeviceLink.CommandLine
