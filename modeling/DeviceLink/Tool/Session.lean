import DeviceLink.Tool.Completions
import DeviceLink.Tool.ReportCommands
import DeviceLink.Tool.SerialCommands

/-!
# Sessions of the tool

A session reads the command line, loads the configuration, and carries the
command out. It ends with a success, with a failure that has an exit code, or
by breaking down; a command line that cannot be read ends it before that.
-/

namespace DeviceLink

namespace Run

/-- The configuration of the machine, or the one in the file that was named. -/
def loadConfig (path : Option String) : Run Config := fun machine =>
  match path with
  | none => (.ok machine.files.load, machine)
  | some path =>
      match machine.files.loadFrom path with
      | .ok config => (.ok config, machine)
      | .error fault => (.error (.failed (.of (.config fault.message))), machine)

/-- Carry out a command. -/
def command (options : Options) (config : Config) : Run Unit :=
  match options.command with
  | .listPorts json => listPorts json
  | .listReportDevices json => listReportDevices json
  | .send wanted => send options config wanted
  | .handshake wanted => handshake options config wanted
  | .sendReport wanted => sendReport options config wanted
  | .watch wanted => watch options config wanted
  | .completions shell true => installCompletions shell
  | .completions shell false => printCompletions shell

/-- Load the configuration and carry out the command. -/
def perform (options : Options) : Run Unit := do
  let config ← loadConfig options.configPath
  command options config

end Run

/-- How a session of the tool ended. -/
inductive SessionEnd
  | refused (fault : CommandLine.UsageFault)
  | finished
  | stopped (stop : Stop)
  deriving DecidableEq, Inhabited

/-- The exit code of a session. -/
def SessionEnd.exitCode : SessionEnd → UInt8
  | refused fault => fault.exitCode
  | finished => 0
  | stopped (.failed failure) => failure.exitCode
  | stopped .crashed => 101

/-- Run the tool with a command line on a machine. -/
def Machine.runTool (machine : Machine) (words : List String) : SessionEnd × Machine :=
  match Options.read machine.environment words with
  | .error fault => (.refused fault, machine)
  | .ok options =>
      match Run.perform options machine with
      | (.ok (), later) => (.finished, later)
      | (.error stop, later) => (.stopped stop, later)

end DeviceLink
