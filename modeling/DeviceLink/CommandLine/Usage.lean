import DeviceLink.CommandLine.Grammar

/-!
# Usage texts

What the tool says about a command line that it does not carry out: the reason,
and the commands and options that it knows.
-/

namespace DeviceLink.CommandLine

/-- The reason why a command line is not carried out. -/
def UsageFault.reason : UsageFault → Option String
  | helpAsked => none
  | versionAsked => none
  | nothingGiven => none
  | missingCommand => some "a command is missing"
  | unknownCommand => some "there is no such command"
  | unknownArgument => some "an argument is not known here"
  | excessValue => some "an option has a value but takes none"
  | badChoice => some "a value is missing or not among the possible ones"
  | badValue => some "a value cannot be read"
  | conflict => some "two arguments cannot be used together"
  | missingArgument => some "a required argument is missing"

/-- How a parameter is written. -/
def Parameter.usage (parameter : Parameter) : String :=
  let short := parameter.short.toList.map fun letter => String.ofList ['-', letter]
  let long := parameter.long.toList.map ("--" ++ ·)
  let names := ", ".intercalate (short ++ long)
  if parameter.isOperand then "<" ++ parameter.id ++ ">"
  else if parameter.takesValue then names ++ " <" ++ parameter.id ++ ">"
  else names

/-- The line of a command with its own parameters. -/
def CommandGrammar.usage (command : CommandGrammar) : String :=
  " ".intercalate (("  " ++ command.name) :: command.parameters.map fun parameter =>
    "[" ++ parameter.usage ++ "]") ++ "\n"

/-- The usage of a tool with this name. -/
def Grammar.usage (grammar : Grammar) (tool : String) : String :=
  "Usage: " ++ tool ++ " [options] <command>\n\nCommands:\n"
    ++ String.join (grammar.commands.map CommandGrammar.usage)
    ++ "\nOptions:\n"
    ++ String.join (grammar.outerParameters.map fun parameter => "  " ++ parameter.usage ++ "\n")

end DeviceLink.CommandLine
