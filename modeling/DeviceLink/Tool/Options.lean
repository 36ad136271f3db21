import DeviceLink.CommandLine.Reading
import DeviceLink.Config.Basic
import DeviceLink.Reply.Handshake
import DeviceLink.Reply.LengthField

/-!
# Options of the tool

The command line of the tool: its global options, its commands, and what each
command takes.
-/

namespace DeviceLink

open CommandLine (ArgumentForm CommandGrammar Environment Grammar Invocation Parameter UsageFault)

/-- The name of the tool. -/
def toolName : String := "createlab"

/-- The command shells that completions can be made for. -/
inductive Shell
  | bash
  | elvish
  | fish
  | powershell
  | zsh
  deriving DecidableEq, Inhabited

namespace Shell

/-- The name of a shell. -/
def name : Shell → String
  | bash => "bash"
  | elvish => "elvish"
  | fish => "fish"
  | powershell => "powershell"
  | zsh => "zsh"

/-- All shells, in the order in which they are offered. -/
def all : List Shell := [bash, elvish, fish, powershell, zsh]

/-- The shell of a name. -/
def ofName? (text : String) : Option Shell :=
  all.find? fun shell => shell.name == text

end Shell

/-! ### What the commands take -/

/-- The handshake that a command may start with. -/
structure HandshakeOptions where
  /-- The bytes that the device announces itself with. -/
  startup : Option (List UInt8) := none
  /-- The bytes with which the device confirms the handshake. -/
  response : Option (List UInt8) := none
  /-- How long the device is left alone afterwards, in milliseconds. -/
  settleMillis : Option UInt64 := none
  deriving DecidableEq, Inhabited

/-- What `send` takes. -/
structure SendOptions where
  /-- The bytes of the command. -/
  command : List UInt8
  /-- The number of bytes of a reply of fixed size, if it is given. -/
  responseSize : Option Nat
  /-- The number of bytes of the header of a framed reply, if it is given. -/
  headerSize : Option Nat
  /-- The offset of the length field in the header, if it is given. -/
  lengthOffset : Option Nat
  /-- The form of the length field. -/
  lengthField : LengthField
  /-- The handshake in front of the command. -/
  handshake : HandshakeOptions
  /-- The response is printed as a record. -/
  json : Bool
  deriving DecidableEq, Inhabited

/-- What `hid-send` takes. -/
structure ReportSendOptions where
  /-- The vendor id of the device. -/
  vendor : UInt16
  /-- The product id of the device. -/
  product : UInt16
  /-- The number of bytes of an incoming report. -/
  inputLength : Nat
  /-- The number of bytes of an outgoing report. -/
  outputLength : Nat
  /-- The bytes of the command. -/
  command : List UInt8
  /-- The number of reply bytes that count. -/
  responseSize : Nat
  /-- How long to wait for the reply, in milliseconds. -/
  timeoutMillis : UInt64
  /-- The response is printed as a record. -/
  json : Bool
  deriving DecidableEq, Inhabited

/-- What `watch` takes. -/
structure WatchOptions where
  /-- The bytes of the command to ping with. -/
  ping : List UInt8
  /-- The number of bytes of its reply. -/
  responseSize : Nat
  /-- The time between two pings, in milliseconds. -/
  intervalMillis : UInt64
  /-- The number of failures in a row that mean a loss. -/
  failures : UInt32
  /-- The handshake in front of the first ping. -/
  handshake : HandshakeOptions
  deriving DecidableEq, Inhabited

/-- What to do. -/
inductive ToolCommand
  | listPorts (json : Bool)
  | listReportDevices (json : Bool)
  | send (options : SendOptions)
  | handshake (options : HandshakeOptions)
  | sendReport (options : ReportSendOptions)
  | watch (options : WatchOptions)
  | completions (shell : Option Shell) (install : Bool)
  deriving DecidableEq, Inhabited

/-- The options of a run of the tool. -/
structure Options where
  /-- The name of the port to use. -/
  port : Option String := none
  /-- The speed of the port in bauds. -/
  baud : Option UInt32 := none
  /-- How often more log output was asked for. -/
  verbosity : Nat := 0
  /-- Remarks are not printed. -/
  quiet : Bool := false
  /-- Nobody is asked anything. -/
  nonInteractive : Bool := false
  /-- Ports that are not known are candidates as well. -/
  listAllPorts : Bool := false
  /-- The configuration file that is loaded in place of the usual ones. -/
  configPath : Option String := none
  /-- What to do. -/
  command : ToolCommand
  deriving DecidableEq, Inhabited

namespace Options

/-! ### The grammar -/

/-- A size of up to 64 bits. -/
def size : ArgumentForm := .count UInt64.size

/-- The options in front of or behind every command. -/
def globalParameters : List Parameter :=
  [ { Parameter.option "port" .text with short := some 'p', environment := some "CREATELAB_PORT" },
    { Parameter.option "baud" (.signedCount UInt32.size) with
      short := some 'b', environment := some "CREATELAB_BAUD" },
    { id := "verbose", long := some "verbose", short := some 'v', effect := .count },
    { Parameter.switch "quiet" with short := some 'q' },
    { Parameter.switch "non-interactive" with environment := some "CREATELAB_NON_INTERACTIVE" },
    Parameter.switch "list-all-ports",
    Parameter.option "config" .nonempty ]

/-- The options of an optional handshake, of which both patterns are given or neither is. -/
def handshakeParameters : List Parameter :=
  [ { Parameter.option "startup" .bytes with requires := ["response"] },
    { Parameter.option "response" .bytes with requires := ["startup"] },
    Parameter.option "settle-ms" size ]

/-- The number of reply bytes. -/
def responseSize : Parameter :=
  { Parameter.option "response-size" size with short := some 'n' }

/-- The commands of the tool. -/
def commands : List CommandGrammar :=
  [ ⟨"list-ports", [Parameter.switch "json"]⟩,
    ⟨"list-hid", [Parameter.switch "json"]⟩,
    ⟨"send",
      [ { Parameter.operand "command" .bytes with required := true },
        { responseSize with excludes := ["header-size"] },
        { Parameter.option "header-size" size with requires := ["length-offset"] },
        { Parameter.option "length-offset" size with requires := ["header-size"] },
        { Parameter.option "length-field" (.choice (LengthField.all.map LengthField.name)) with
          default := some (.text LengthField.byte.name) } ]
      ++ handshakeParameters ++ [Parameter.switch "json"]⟩,
    ⟨"handshake",
      [ { Parameter.option "startup" .bytes with required := true },
        { Parameter.option "response" .bytes with required := true },
        Parameter.option "settle-ms" size ]⟩,
    ⟨"hid-send",
      [ { Parameter.option "vid" .word with required := true },
        { Parameter.option "pid" .word with required := true },
        { Parameter.option "input-len" size with default := some (.number 9) },
        { Parameter.option "output-len" size with default := some (.number 9) },
        { Parameter.operand "command" .bytes with required := true },
        { responseSize with default := some (.number 0) },
        { Parameter.option "timeout-ms" size with default := some (.number 1000) },
        Parameter.switch "json" ]⟩,
    ⟨"watch",
      [ { Parameter.option "ping" .bytes with required := true },
        { responseSize with default := some (.number 0) },
        { Parameter.option "interval-ms" size with default := some (.number 1000) },
        { Parameter.option "failures" (.signedCount UInt32.size) with default := some (.number 1) } ]
      ++ handshakeParameters⟩,
    ⟨"completions",
      [ Parameter.operand "shell" (.choice (Shell.all.map Shell.name)),
        Parameter.switch "install" ]⟩ ]

/-- The grammar of the command line. -/
def grammar : Grammar where
  globals := globalParameters
  commands := commands

/-! ### Reading -/

/-- The 64-bit number of a parameter. -/
def millis? (invocation : Invocation) (id : String) : Option UInt64 :=
  (invocation.number? id).map UInt64.ofNat

/-- The handshake options of an invocation. -/
def handshakeOf (invocation : Invocation) : HandshakeOptions where
  startup := invocation.bytes? "startup"
  response := invocation.bytes? "response"
  settleMillis := millis? invocation "settle-ms"

/-- The options of `send`. -/
def sendOf (invocation : Invocation) : SendOptions where
  command := (invocation.bytes? "command").getD []
  responseSize := invocation.number? "response-size"
  headerSize := invocation.number? "header-size"
  lengthOffset := invocation.number? "length-offset"
  lengthField := ((invocation.text? "length-field").bind (LengthField.ofName? false)).getD .byte
  handshake := handshakeOf invocation
  json := invocation.isOn "json"

/-- The options of `hid-send`. -/
def sendReportOf (invocation : Invocation) : ReportSendOptions where
  vendor := UInt16.ofNat ((invocation.number? "vid").getD 0)
  product := UInt16.ofNat ((invocation.number? "pid").getD 0)
  inputLength := (invocation.number? "input-len").getD 0
  outputLength := (invocation.number? "output-len").getD 0
  command := (invocation.bytes? "command").getD []
  responseSize := (invocation.number? "response-size").getD 0
  timeoutMillis := (millis? invocation "timeout-ms").getD 0
  json := invocation.isOn "json"

/-- The options of `watch`. -/
def watchOf (invocation : Invocation) : WatchOptions where
  ping := (invocation.bytes? "ping").getD []
  responseSize := (invocation.number? "response-size").getD 0
  intervalMillis := (millis? invocation "interval-ms").getD 0
  failures := UInt32.ofNat ((invocation.number? "failures").getD 0)
  handshake := handshakeOf invocation

/-- What an invocation asks to do. -/
def commandOf (invocation : Invocation) : ToolCommand :=
  match invocation.command with
  | "list-ports" => .listPorts (invocation.isOn "json")
  | "list-hid" => .listReportDevices (invocation.isOn "json")
  | "send" => .send (sendOf invocation)
  | "handshake" => .handshake (handshakeOf invocation)
  | "hid-send" => .sendReport (sendReportOf invocation)
  | "watch" => .watch (watchOf invocation)
  | _ =>
      .completions ((invocation.text? "shell").bind Shell.ofName?) (invocation.isOn "install")

/-- The options of an invocation. -/
def ofInvocation (invocation : Invocation) : Options where
  port := invocation.text? "port"
  baud := (invocation.number? "baud").map UInt32.ofNat
  verbosity := (invocation.number? "verbose").getD 0
  quiet := invocation.isOn "quiet"
  nonInteractive := invocation.isOn "non-interactive"
  listAllPorts := invocation.isOn "list-all-ports"
  configPath := invocation.text? "config"
  command := commandOf invocation

/-- Read the options in a command line. -/
def read (environment : Environment) (words : List String) : Except UsageFault Options := do
  let invocation ← grammar.read environment words
  pure (ofInvocation invocation)

/-! ### Options over the configuration -/

/-- The speed of serial ports when neither the options nor the configuration say. -/
def defaultBaud : UInt32 := 115200

/-- The speed of the serial port. -/
def baudRate (options : Options) (config : Config) : UInt32 :=
  (options.baud <|> config.serial.baud).getD defaultBaud

end Options

/-- The handshake of options, if they have both patterns. -/
def HandshakeOptions.handshake? (options : HandshakeOptions) (config : Config) : Option Handshake := do
  let startup ← options.startup
  let response ← options.response
  let handshake : Handshake :=
    { startup := startup, response := response, settings := config.lineSettings }
  let chosen := options.settleMillis.map Duration.ofMillis <|> config.settleDelay
  pure { handshake with settleDelay := chosen.getD handshake.settleDelay }

end DeviceLink
