import DeviceLink.Config.Store
import DeviceLink.Device.SerialPorts
import DeviceLink.Tool.Failure
import DeviceLink.Tool.Prompt

/-!
# Selecting a serial port

A port that was named is used as it is. Else the known ports are preferred to
the others, a single known port is used without asking, and everything else
needs an answer at a terminal. Without prompts there has to be exactly one
port to use.
-/

namespace DeviceLink

/-- How to select a port. -/
structure SelectionOptions where
  /-- The name of the port to use. -/
  port : Option String := none
  /-- Ports that are not known are candidates as well. -/
  listAllPorts : Bool := false
  /-- Nobody is asked anything. -/
  nonInteractive : Bool := false
  deriving DecidableEq, Inhabited

/-- A selected port, and whether it is known. -/
structure SelectedPort where
  /-- The port itself. -/
  port : DeviceDescriptor
  /-- The port is of a known kind, or its ids are listed. -/
  known : Bool
  deriving DecidableEq, Inhabited

/-- The keys typed at the terminal, absent when there is no terminal. -/
abbrev Terminal : Type := Option (List Key)

namespace Selection

/-- Somebody backed out of a prompt. -/
def cancelled : FailureCause := .cancelled "port selection cancelled"

/-- A prompt is needed, but nobody could answer it. -/
def noTerminal : FailureCause :=
  .usage "port selection needs a terminal; pass --port or --non-interactive"

/-- Nothing can be selected from. -/
def noPorts : FailureCause := .usage "no serial ports found"

/-- The failure of a prompt that could not be read. -/
def promptFailure (failure : SystemError) : FailureCause :=
  if failure.kind = .interrupted then cancelled else .usage ("prompt failed: " ++ failure.text)

/-- A port with the answer whether the configuration knows it. -/
def judged (config : Config) (port : DeviceDescriptor) : SelectedPort :=
  ⟨port, config.knows port⟩

/-- The only one of the ports. -/
def single
    (config : Config)
    (ports : List DeviceDescriptor) : Except FailureCause SelectedPort :=
  match ports with
  | [] => .error (.usage "no serial ports available")
  | [port] => .ok (judged config port)
  | _ => .error (.usage "multiple serial ports found; pass --port to choose one")

/-- The names are equal up to the case of ASCII letters. -/
def sameName (first second : String) : Bool :=
  first.toLower == second.toLower

/-- The port of a name: one with that path, else one with that path in another case, else a bare
one. -/
def named (ports : List DeviceDescriptor) (name : String) : DeviceDescriptor :=
  ((ports.find? fun port => port.path == name)
    <|> ports.find? fun port => sameName port.path name).getD (.serial name)

/-- The ports to select from: the known ones, unless there are none or all are wanted. -/
def candidates
    (listAll : Bool)
    (config : Config)
    (ports : List DeviceDescriptor) : List DeviceDescriptor :=
  let known := ports.filter config.knows
  if listAll || known.isEmpty then ports else known

/-- What is left to do for a selection. -/
inductive Proposal
  | take (selected : SelectedPort)
  | confirm (port : DeviceDescriptor)
  | choose (ports : List DeviceDescriptor)
  deriving DecidableEq, Inhabited

/-- What to do about several candidates, about one, or about none. -/
def proposeFrom
    (options : SelectionOptions)
    (config : Config)
    (ports : List DeviceDescriptor) : Except FailureCause Proposal :=
  if options.nonInteractive then (single config ports).map .take
  else
    match ports with
    | [] => .error noPorts
    | [port] => if config.knows port then .ok (.take ⟨port, true⟩) else .ok (.confirm port)
    | ports => .ok (.choose ports)

/-- What to do about the ports of a machine. -/
def propose
    (options : SelectionOptions)
    (config : Config)
    (ports : List DeviceDescriptor) : Except FailureCause Proposal :=
  match options.port <|> config.serial.port with
  | some name => .ok (.take (judged config (named ports name)))
  | none =>
      if ports.isEmpty then .error noPorts
      else proposeFrom options config (candidates options.listAllPorts config ports)

/-- The ports in the order in which they are offered: known ones first. -/
def offered (config : Config) (ports : List DeviceDescriptor) : List DeviceDescriptor :=
  ports.filter config.knows ++ ports.filter fun port => !config.knows port

/-- Carry a proposal out at a terminal. Left are the keys not read yet. -/
def decide
    (config : Config)
    (proposal : Proposal)
    (terminal : Terminal) : Except FailureCause SelectedPort × Terminal :=
  match proposal, terminal with
  | .take selected, terminal => (.ok selected, terminal)
  | _, none => (.error noTerminal, none)
  | .confirm port, some keys =>
      let (yes, keys) := Prompt.confirm true keys
      (if yes then .ok ⟨port, false⟩ else .error cancelled, some keys)
  | .choose ports, some keys =>
      let offered := offered config ports
      let (answer, keys) := Prompt.choose offered.length 0 keys
      match answer.bind (offered[·]?) with
      | some port => (.ok (judged config port), some keys)
      | none => (.error cancelled, some keys)

/-- Select a port of a machine. -/
def select
    (options : SelectionOptions)
    (config : Config)
    (listings : PortListings)
    (terminal : Terminal) : Except FailureCause SelectedPort × Terminal :=
  match propose options config (DeviceDescriptor.serialPorts listings) with
  | .ok proposal => decide config proposal terminal
  | .error cause => (.error cause, terminal)

/-! ### Remembering a port -/

/-- The device to ask about: the port has ids, and the configuration does not list them. -/
def unlisted? (config : Config) (port : DeviceDescriptor) : Option KnownDevice :=
  match port.vendor, port.product with
  | some vendor, some product =>
      if config.lists vendor product then none else some ⟨vendor, product⟩
  | _, _ => none

/-- Ask at the terminal whether to remember a port. A file that cannot be written is no failure. -/
def offerToRemember
    (port : DeviceDescriptor)
    (config : Config)
    (files : ConfigFiles)
    (terminal : Terminal) : Config × ConfigFiles × Terminal :=
  match unlisted? config port, terminal with
  | some device, some keys =>
      let (yes, keys) := Prompt.confirm false keys
      if yes then
        let (_, config, files) := files.remember device config
        (config, files, some keys)
      else (config, files, some keys)
  | _, terminal => (config, files, terminal)

end Selection

end DeviceLink
