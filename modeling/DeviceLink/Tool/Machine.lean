import DeviceLink.CommandLine.Level
import DeviceLink.Device.ReportBus
import DeviceLink.Serial.Config
import DeviceLink.Tool.Output
import DeviceLink.Tool.Selection

/-!
# Runs of the tool on a machine

A machine has files, environment variables, ports and devices, and perhaps a
terminal. A run of the tool changes it step by step, and stops early when it
fails or breaks down. The history of the machine keeps the order in which
serial ports were opened and closed and results were printed, newest first.
-/

namespace DeviceLink

/-- What a run did with a serial port, or printed as a result. -/
inductive MachineEvent
  | opened (port : String)
  | closed (port : String)
  | printed (text : String)
  deriving DecidableEq, Inhabited

/-- What the tool finds on a machine, and what it has printed. -/
structure Machine where
  /-- The files, with the place of the global configuration. -/
  files : ConfigFiles
  /-- The home directory. -/
  home : Place
  /-- The directory for data of the user. -/
  dataDirectory : Place
  /-- The directory for the configuration of the user. -/
  configDirectory : Place
  /-- The variables of the environment. -/
  environment : CommandLine.Environment := []
  /-- The serial ports that the machine lists. -/
  ports : PortListings := some []
  /-- The device behind a serial port, if there is one. -/
  attached : Option AttachedLine := none
  /-- The report devices. -/
  bus : ReportBus := []
  /-- The keys that are typed at the terminal, if there is one. -/
  terminal : Terminal := none
  /-- The number of bytes after which somebody interrupts a run that watches the device. -/
  interruptAfter : Option Nat := none
  /-- What was printed so far. -/
  transcript : Transcript := {}
  /-- What was done with serial ports and printed as results, newest first. -/
  history : List MachineEvent := []

/-- Keep an event in the history. -/
def Machine.note (event : MachineEvent) (machine : Machine) : Machine :=
  { machine with history := event :: machine.history }

/-- Why a run stops early. -/
inductive Stop
  | failed (failure : Failure)
  | crashed
  deriving DecidableEq, Inhabited

/-- A part of a run: it changes the machine and ends with a value, or stops the run. -/
def Run (α : Type) : Type :=
  Machine → Except Stop α × Machine

namespace Run

variable {α β : Type}

/-- The part that does nothing. -/
protected def pure (value : α) : Run α :=
  fun machine => (.ok value, machine)

/-- One part after another, unless the first stops the run. -/
protected def bind (first : Run α) (next : α → Run β) : Run β :=
  fun machine =>
    match first machine with
    | (.ok value, later) => next value later
    | (.error stop, later) => (.error stop, later)

instance : Monad Run where
  pure := Run.pure
  bind := Run.bind

/-- Look at the machine. -/
def look (view : Machine → α) : Run α :=
  fun machine => (.ok (view machine), machine)

/-- Change the machine. -/
def change (edit : Machine → Machine) : Run Unit :=
  fun machine => (.ok (), edit machine)

/-- Stop with a failure. -/
def fail (failure : Failure) : Run α :=
  fun machine => (.error (.failed failure), machine)

/-- Stop by breaking down. -/
def crash : Run α :=
  fun machine => (.error .crashed, machine)

/-- The value, or a failure with this cause. -/
def ofCause : Except FailureCause α → Run α
  | .ok value => Run.pure value
  | .error cause => fail (.of cause)

/-- The value, or the failure in a context that a link error means. -/
def ofLink (contexts : List String) : Except LinkError α → Run α
  | .ok value => Run.pure value
  | .error error => fail ⟨contexts, .link error⟩

/-- The value, or the stop in a context that a fault means. -/
def ofFault (contexts : List String) : Except Fault α → Run α
  | .ok value => Run.pure value
  | .error (.error error) => fail ⟨contexts, .link error⟩
  | .error .crash => crash

/-- Print results. -/
def print (text : String) : Run Unit :=
  change fun machine =>
    { machine with transcript := machine.transcript.result text }.note (.printed text)

/-- Print a line of remarks. -/
def remark (line : String) : Run Unit :=
  change fun machine => { machine with transcript := machine.transcript.remark line }

@[simp] theorem pure_apply (value : α) (machine : Machine) :
    (pure value : Run α) machine = (.ok value, machine) := rfl

@[simp] theorem fail_apply (failure : Failure) (machine : Machine) :
    (fail failure : Run α) machine = (.error (.failed failure), machine) := rfl

@[simp] theorem crash_apply (machine : Machine) :
    (crash : Run α) machine = (.error .crashed, machine) := rfl

theorem bind_apply
    (first : Run α)
    (next : α → Run β)
    (machine : Machine) :
    (first >>= next) machine =
      match first machine with
      | (.ok value, later) => next value later
      | (.error stop, later) => (.error stop, later) := rfl

theorem bind_of_ok
    {first : Run α}
    {machine later : Machine}
    {value : α}
    (ended : first machine = (.ok value, later))
    (next : α → Run β) :
    (first >>= next) machine = next value later := by
  simp [bind_apply, ended]

theorem bind_of_stop
    {first : Run α}
    {machine later : Machine}
    {stop : Stop}
    (stopped : first machine = (.error stop, later))
    (next : α → Run β) :
    (first >>= next) machine = (.error stop, later) := by
  simp [bind_apply, stopped]

end Run

end DeviceLink
