import DeviceLink.Scenario.Devices
import DeviceLink.Scenario.Files
import DeviceLink.Tool.Session

/-!
# Runs of the tool in scenarios

A scenario describes a machine and a command line. The record of a run tells
how it ended, what it printed, and what became of devices and files.
-/

namespace DeviceLink

/-! ### Failures -/

/-- The cause that a scenario describes. -/
def FailureCause.ofScenario (value : Json) : FailureCause :=
  let text := value.str "text"
  match value.str "kind" with
  | "CliUsage" => .usage text
  | "CliConfig" => .config text
  | "CliCancelled" => .cancelled text
  | "Plain" => .other text
  | _ => .link (.ofJson value)

/-- The text of a context that a scenario describes; an error only lends its own message. -/
def Failure.contextOfScenario : Json → String
  | .string text => text
  | value =>
      match FailureCause.ofScenario value with
      | .link error => error.message
      | cause => ": ".intercalate cause.texts

/-- The failure that a scenario describes. -/
def Failure.ofScenario (value : Json) : Failure :=
  (value.all "context").foldl
    (fun failure context => failure.within (contextOfScenario context))
    (.of (.ofScenario value))

/-- The record of a selected port. -/
def SelectedPort.toJson (selected : SelectedPort) : Json :=
  .record
    [ ("path", .string selected.port.path), ("summary", .string selected.port.summary),
      ("known", .bool selected.known) ]

/-! ### Options -/

/-- The fields of handshake options. -/
def HandshakeOptions.fields (options : HandshakeOptions) : List (String × Json) :=
  [ ("startup", .orNull .hex options.startup), ("response", .orNull .hex options.response),
    ("settle_ms", .orNull (fun value => .decimal value.toNat) options.settleMillis) ]

/-- The record of handshake options. -/
def HandshakeOptions.toJson (options : HandshakeOptions) : Json :=
  .record options.fields

/-- The record of a command of the tool. -/
def ToolCommand.toJson : ToolCommand → Json
  | .listPorts json => .record [("name", .string "list-ports"), ("json", .bool json)]
  | .listReportDevices json => .record [("name", .string "list-hid"), ("json", .bool json)]
  | .send options =>
      .record
        [ ("name", .string "send"), ("command", .hex options.command),
          ("response_size", .orNull .decimal options.responseSize),
          ("header_size", .orNull .decimal options.headerSize),
          ("length_offset", .orNull .decimal options.lengthOffset),
          ("length_field", .string options.lengthField.name),
          ("handshake", options.handshake.toJson), ("json", .bool options.json) ]
  | .handshake options => .record (("name", .string "handshake") :: options.fields)
  | .sendReport options =>
      .record
        [ ("name", .string "hid-send"), ("vid", .natural options.vendor.toNat),
          ("pid", .natural options.product.toNat), ("input_len", .decimal options.inputLength),
          ("output_len", .decimal options.outputLength), ("command", .hex options.command),
          ("response_size", .decimal options.responseSize),
          ("timeout_ms", .decimal options.timeoutMillis.toNat), ("json", .bool options.json) ]
  | .watch options =>
      .record
        [ ("name", .string "watch"), ("ping", .hex options.ping),
          ("response_size", .decimal options.responseSize),
          ("interval_ms", .decimal options.intervalMillis.toNat),
          ("failures", .natural options.failures.toNat),
          ("handshake", options.handshake.toJson) ]
  | .completions shell install =>
      .record
        [ ("name", .string "completions"),
          ("shell", .orNull (fun shell => .string shell.name) shell),
          ("install", .bool install) ]

/-- The handshake options of a command that may start with a handshake. -/
def ToolCommand.handshakeOptions : ToolCommand → HandshakeOptions
  | .send options => options.handshake
  | .watch options => options.handshake
  | _ => {}

/-- The fields of the record of options. -/
def Options.fields (options : Options) : List (String × Json) :=
  [ ("port", .orNull .string options.port), ("baud", .ofCount? options.baud),
    ("verbose", .natural options.verbosity), ("quiet", .bool options.quiet),
    ("non_interactive", .bool options.nonInteractive),
    ("list_all_ports", .bool options.listAllPorts),
    ("config", .orNull .string options.configPath), ("command", options.command.toJson) ]

/-! ### Runs -/

namespace Scenario

/-- The name of the port with a device behind it. -/
def devicePath : String := "$PORT"

/-- The variables that a scenario sets. -/
def environment : Json → CommandLine.Environment
  | .record fields => fields.filterMap fun (name, value) => value.string?.map (name, ·)
  | _ => []

/-- The key of a name. -/
def keyOf : String → Key
  | "up" => .up
  | "down" => .down
  | "enter" => .enter
  | "esc" => .escape
  | text => .letter (text.toList.headD ' ')

/-- The machine that a scenario describes. -/
def machine (value : Json) : Machine :=
  let attached : AttachedLine := ⟨devicePath, .ofTurns (value.get "device")⟩
  { files := configFiles (value.get "files")
    home := homeDirectory
    dataDirectory := homeDirectory ++ [".local", "share"]
    configDirectory := configDirectory
    environment := environment (value.get "env")
    ports := PortListings.ofScenario (value.get "ports")
    attached := if value.has "device" then some attached else none
    bus := .ofScenario (value.get "hid")
    terminal := if value.has "keys" then some ((value.strings "keys").map keyOf) else none
    interruptAfter := value.nat? "interrupt_after" }

/-- The run prints completions; their text is not shown. -/
def printsCompletions (environment : CommandLine.Environment) (words : List String) : Bool :=
  match Options.read environment words with
  | .ok options =>
      match options.command with
      | .completions _ _ => true
      | _ => false
  | .error _ => false

/-- The fields with what a run printed. A process of its own does not show its remarks. -/
def outputFields (value : Json) (transcript : Transcript) : List (String × Json) :=
  let process := value.flag "process"
  let printed := !transcript.results.isEmpty
  let completions := printsCompletions (environment (value.get "env")) (value.strings "args")
  let results :=
    if completions && (printed || !process) then Json.bool printed
    else .string transcript.results
  let remarks := if process then [] else [("stderr", Json.string transcript.remarks)]
  ("stdout", results) :: remarks

/-- The fields with what became of devices and files. -/
def worldFields (value : Json) (later : Machine) : List (String × Json) :=
  let received := (later.attached.map fun device => Json.hex device.line.received).toList
  let devices := if value.has "hid" then [later.bus.toJson []] else []
  let files :=
    if value.flag "file_text" then [fileTexts later.files.tree]
    else if value.flag "show_files" then [fileNames later.files.tree]
    else []
  received.map ("received", ·) ++ devices.map ("devices", ·) ++ files.map ("files", ·)

/-- The fields with all that a run left behind. -/
def machineFields (value : Json) (later : Machine) : List (String × Json) :=
  outputFields value later.transcript ++ worldFields value later

end Scenario

end DeviceLink
