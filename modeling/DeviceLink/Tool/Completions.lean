import DeviceLink.Tool.Machine
import DeviceLink.Tool.Options

/-!
# Shell completions

A completion script offers the commands and the long options of the tool. It is
printed, or installed where its shell looks for it. The shell is taken from the
environment when none is named.
-/

namespace DeviceLink

namespace Shell

/-- The last name of a path, without slashes and single dots behind it. -/
def lastName (path : String) : Option String :=
  let names := (path.splitOn "/").filter fun name => name != "" && name != "."
  match names.getLast? with
  | some ".." => none
  | name => name

/-- The shell whose program has this path. -/
def ofPath? (path : String) : Option Shell :=
  match lastName path with
  | some "pwsh" => some .powershell
  | some name => ofName? name
  | none => none

/-- The shell that the environment names. -/
def detect? (environment : CommandLine.Environment) : Option Shell :=
  (environment.lookup "SHELL").bind ofPath?

/-- The words a completion script offers. -/
def offeredWords : List String :=
  let long := fun (parameter : CommandLine.Parameter) =>
    parameter.long.toList.map ("--" ++ ·)
  let grammar := Options.grammar
  let options := grammar.outerParameters ++ grammar.commands.flatMap (·.parameters)
  grammar.commandNames ++ (options.flatMap long).eraseDups

/-- The completion script for a shell. -/
def script (shell : Shell) : String :=
  let words := " ".intercalate offeredWords
  match shell with
  | bash => "complete -W \"" ++ words ++ "\" " ++ toolName ++ "\n"
  | zsh => "#compdef " ++ toolName ++ "\ncompadd -- " ++ words ++ "\n"
  | fish => "complete -c " ++ toolName ++ " -f -a \"" ++ words ++ "\"\n"
  | elvish =>
      "set edit:completion:arg-completer[" ++ toolName ++ "] = \x7b|@words| put " ++ words
        ++ " \x7d\n"
  | powershell =>
      "Register-ArgumentCompleter -Native -CommandName " ++ toolName
        ++ " -ScriptBlock \x7b -split \"" ++ words ++ "\" \x7d\n"

/-- Where the completion script of a shell goes. -/
def scriptPlace (shell : Shell) (machine : Machine) : Place :=
  match shell with
  | bash => machine.dataDirectory ++ ["bash-completion", "completions", toolName]
  | zsh => machine.home ++ [".zfunc", "_" ++ toolName]
  | fish => machine.configDirectory ++ ["fish", "completions", toolName ++ ".fish"]
  | elvish => machine.configDirectory ++ ["elvish", "lib", toolName ++ ".elv"]
  | powershell => machine.configDirectory ++ ["powershell", "completions", toolName ++ ".ps1"]

/-- What to do to use an installed script. -/
def hint (shell : Shell) (path : String) : String :=
  match shell with
  | bash => "Open a new terminal or run: source " ++ path
  | zsh =>
      "Make sure ~/.zshrc has `fpath=(~/.zfunc $fpath)` before `compinit`, then run: exec zsh"
  | powershell => "Add `Import-Module " ++ path ++ "` to your PowerShell profile"
  | _ => "Completions load automatically in new sessions"

end Shell

namespace Run

/-- The shell that was named or detected. -/
def chosenShell (named : Option Shell) (otherwise : FailureCause) : Run Shell := fun machine =>
  match named <|> Shell.detect? machine.environment with
  | some shell => (.ok shell, machine)
  | none => (.error (.failed (.of otherwise)), machine)

/-- Change the files of the machine; a fault stops the run in a context. -/
def editFiles
    (context : String)
    (edit : FileTree → Except FileFault FileTree) : Run Unit := fun machine =>
  match edit machine.files.tree with
  | .ok tree => (.ok (), { machine with files := { machine.files with tree := tree } })
  | .error fault => (.error (.failed ⟨[context], .other fault.message⟩), machine)

/-- Print a completion script. -/
def printCompletions (named : Option Shell) : Run Unit := do
  let shell ← chosenShell named
    (.usage ("specify a shell type, e.g.: " ++ toolName ++ " completions bash"))
  print shell.script

/-- Install a completion script. -/
def installCompletions (named : Option Shell) : Run Unit := do
  let shell ← chosenShell named
    (.other ("Could not detect your shell. Please specify it explicitly:\n  " ++ toolName
      ++ " completions --install bash"))
  let place ← look shell.scriptPlace
  let tree ← look fun machine => machine.files.tree
  let directory := place.dropLast
  let path := tree.pathOf place
  editFiles ("Failed to create directory: " ++ tree.pathOf directory)
    (·.makeDirectories directory)
  editFiles ("Failed to write completion file: " ++ path) (·.writeText place shell.script)
  remark ("✓ Installed " ++ shell.name ++ " completions to " ++ path)
  remark (shell.hint path)

end Run

end DeviceLink
