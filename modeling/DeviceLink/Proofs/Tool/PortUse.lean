import DeviceLink.Proofs.Queue.HandshakeConnection
import DeviceLink.Proofs.Tool.PortSelection
import DeviceLink.Tool.Session

/-!
# Runs that use a serial port

A run opens the port that was named, perhaps runs a handshake over it, has a
command executed, and closes the port. Each of these parts leaves the line of
the device on the machine and adds to its history, and a part that stops the
run has closed the port before.
-/

namespace DeviceLink

namespace Machine

/-- What a part of a run leaves on a machine: the line of its device, and behind what was there
before the text that was printed and the events of the history, oldest first. -/
structure Leaves
    (machine : Machine)
    (line : Line)
    (text : String)
    (events : List MachineEvent)
    (later : Machine) : Prop where
  /-- The device is left with this line. -/
  attached : later.attached = machine.attached.map fun device => { device with line := line }
  /-- This text was printed. -/
  results : later.transcript.results = machine.transcript.results ++ text
  /-- These events were added to the history. -/
  history : later.history = events.reverse ++ machine.history

namespace Leaves

variable {machine between later : Machine} {line last : Line} {text more : String}
  {events others : List MachineEvent}

theorem trans
    (early : machine.Leaves line text events between)
    (late : between.Leaves last more others later) :
    machine.Leaves last (text ++ more) (events ++ others) later where
  attached := by
    rw [late.attached, early.attached, Option.map_map]
    rfl
  results := by rw [late.results, early.results, String.append_assoc]
  history := by rw [late.history, early.history, List.reverse_append, List.append_assoc]

/-- The device is left with the line that it had. -/
theorem of_attached
    {device : AttachedLine}
    (attached : machine.attached = some device)
    (same : later.attached = machine.attached)
    (results : later.transcript.results = machine.transcript.results)
    (history : later.history = events.reverse ++ machine.history) :
    machine.Leaves device.line "" events later where
  attached := by
    rw [same, attached]
    rfl
  results := by rw [results, String.append_empty]
  history := history

end Leaves

end Machine

/-! ## Sessions over a port -/

/-- A strategy over a serial line changes only the line of the port, and ends with a response when
the exchange does. -/
theorem run_ofSerial (request : SerialCommand) (port : SerialPort) :
    ((Strategy.ofSerial request).run port).2 =
        { port with line := (request.execute port.line).2 } ∧
      ∀ response, ((Strategy.ofSerial request).run port).1 = .ok response ↔
        (request.execute port.line).1 = .ok response := by
  simp only [Strategy.run, Strategy.ofSerial, SerialPort.onLine]
  cases request.execute port.line with
  | mk outcome line =>
      cases outcome with
      | ok response => simp
      | error fault =>
          cases fault with
          | error cause => simp
          | crash => simp

namespace QueueSession

/-- The session is ready for a command, over a port with this line. -/
structure ReadyOn
    (session : QueueSession SerialPort)
    (port : SerialPort)
    (settings : QueueSettings)
    (line : Line) : Prop where
  /-- The queue is open and its worker waits for work. -/
  idle : session.queue.Idle
  /-- The queue owns the port, with this line. -/
  transport : session.queue.transport = { port with line := line }
  /-- The queue has these settings. -/
  settings : session.queue.settings = settings

section Sessions

variable {port : SerialPort} {settings : QueueSettings} {line : Line}
  {session : QueueSession SerialPort}

/-- A handshake that the device completes makes the session ready; any other one closes the port. -/
theorem finishHandshake_cases
    {handshake : Handshake}
    {budget : Duration}
    (within : handshake.timeBudget? = some budget)
    (port : SerialPort)
    (settings : QueueSettings) :
    (∃ ready session, handshake.execute port.line = (.ok .success, ready) ∧
      (overPort port settings).finishHandshake handshake = (.ok (), session) ∧
      session.ReadyOn port settings ready) ∨
    ((handshake.execute port.line).1 ≠ .ok .success ∧
      ∃ fault session last,
        (overPort port settings).finishHandshake handshake =
          (.error fault, session) ∧
        session.queue.transport = (SerialPort.close { port with line := last }).2) := by
  have idle : (overPort port settings).queue.Idle :=
    CommandQueue.idle_start port settings none
  have performed := performHandshake_of_idle idle within
  have idleAfter := idle.executed (.ofHandshake handshake)
  have transport : ((overPort port settings).queue.executed
      (.ofHandshake handshake)).transport =
        { port with line := (handshake.execute port.line).2 } :=
    (run_ofHandshake handshake port).2
  obtain ⟨ends, kept, closed⟩ := finishHandshake_of_performed performed idleAfter
  cases judged : verdict (overPort port settings).queue.name
      (handshake.execute (overPort port settings).queue.transport.line).1 with
  | ok done =>
      have completed := verdict_eq_ok_iff.1 judged
      exact .inl ⟨_, _, Prod.ext completed rfl, Prod.ext (ends.trans judged) (kept judged),
        idleAfter, transport, rfl⟩
  | error fault =>
      obtain ⟨-, last⟩ := closed fault judged
      rw [transport] at last
      refine .inr ⟨?_, fault, _, _, Prod.ext (ends.trans judged) rfl, last⟩
      intro completed
      cases judged.symm.trans (verdict_eq_ok_iff.2 completed)

/-- The command is executed at once, and the session is ready again. -/
theorem executeWithin_of_ready
    (isReady : session.ReadyOn port settings line)
    (request : SerialCommand)
    (timeout : Duration) :
    ∃ result later, session.executeWithin (.ofSerial request) timeout = (result, later) ∧
      later.ReadyOn port settings (request.execute line).2 ∧
      ∀ response, result = .ok response ↔ (request.execute line).1 = .ok response := by
  have noPause : ∀ result, ((Strategy.ofSerial request).pauseAfter result).nanos ≤ timeout.nanos := by
    intro result
    cases result with
    | ok response => exact Nat.zero_le _
    | error cause => exact Nat.zero_le _
  obtain ⟨transport, responds⟩ := run_ofSerial request { port with line := line }
  refine ⟨_, _, executeWithin_of_idle isReady.idle rfl rfl (noPause _),
    ⟨isReady.idle.executed _, ?_, isReady.settings⟩, ?_⟩
  · rw [CommandQueue.executed, isReady.transport]
    exact transport
  · rw [isReady.transport]
    exact responds

/-- A shutdown closes the port. -/
theorem shutdown_of_ready (isReady : session.ReadyOn port settings line) :
    session.shutdown.2.queue.transport = (SerialPort.close { port with line := line }).2 := by
  rw [shutdown_of_idle isReady.idle]
  change (SerialPort.close session.queue.transport).2 = _
  rw [isReady.transport]

end Sessions

end QueueSession

namespace Run

/-! ## Opening a port -/

section Opening

variable {options : Options} {config : Config} {name : String} {machine : Machine}
  {device : AttachedLine}

/-- The port that a run opens. -/
def portOf (options : Options) (config : Config) (device : AttachedLine) : SerialPort where
  name := device.path
  line := device.line
  baudRate := options.baudRate config

/-- A port that was named is not asked about. -/
theorem rememberPort_of_named
    (named : options.port = some name)
    (selected : SelectedPort) :
    rememberPort options config selected machine = (.ok config, machine) := by
  simp [rememberPort, named]

/-- A port that is there is opened, and the history says so. -/
theorem openPort_of_attached
    {serial : SerialConfig}
    {port : SerialPort}
    (opened : SerialPort.openPort machine.attached serial = .ok port)
    (context : String) :
    openPort context serial machine = (.ok port, machine.note (.opened port.name)) := by
  unfold openPort
  refine (bind_of_ok rfl _).trans ?_
  rw [opened]
  rfl

/-- After the port is opened it is ready at once, or the handshake starts. -/
theorem connectPort_of_attached
    {serial : SerialConfig}
    {port : SerialPort}
    (opened : SerialPort.openPort machine.attached serial = .ok port)
    (wanted : Option Handshake)
    (settings : QueueSettings) :
    connectPort serial wanted settings machine =
      match wanted with
      | none => (.ok (.overPort port settings), machine.note (.opened port.name))
      | some handshake =>
          shakeHands ("Handshake on " ++ serial.portName ++ " failed") handshake
            (.overPort port settings) (machine.note (.opened port.name)) := by
  cases wanted with
  | none => exact bind_of_ok (openPort_of_attached opened _) _
  | some handshake => exact bind_of_ok (openPort_of_attached opened _) _

/-- A run opens the port that was named, and goes on with the handshake if there is one. -/
theorem openSerial_of_named
    (config : Config)
    (wanted : HandshakeOptions)
    (named : options.port = some name)
    (attached : machine.attached = some device)
    (behind : device.path =
      (Selection.named (DeviceDescriptor.serialPorts machine.ports) name).path) :
    ∃ between, machine.Leaves device.line "" [.opened device.path] between ∧
      openSerial options config wanted machine =
        match wanted.handshake? config with
        | none =>
            (.ok (.overPort (portOf options config device) config.queueSettings), between)
        | some handshake =>
            shakeHands ("Handshake on " ++ device.path ++ " failed") handshake
              (.overPort (portOf options config device) config.queueSettings) between := by
  -- A remark about the port changes nothing but the remarks.
  suffices remarked : ∃ remarked : Machine, remarked.attached = machine.attached ∧
      remarked.transcript.results = machine.transcript.results ∧
      remarked.history = machine.history ∧
      openSerial options config wanted machine =
        connectPort { portName := device.path, baudRate := options.baudRate config }
          (wanted.handshake? config) config.queueSettings remarked by
    obtain ⟨remarked, sameAttached, sameResults, sameHistory, ran⟩ := remarked
    have opened : SerialPort.openPort remarked.attached
        { portName := device.path, baudRate := options.baudRate config } =
          .ok (portOf options config device) := by
      rw [sameAttached, attached]
      exact if_pos rfl
    refine ⟨remarked.note (.opened device.path), ?_, ?_⟩
    · exact .of_attached attached sameAttached sameResults (congrArg _ sameHistory)
    · rw [ran]
      exact connectPort_of_attached opened _ _
  unfold openSerial
  rw [bind_of_ok (selectPort_of_name (congrArg (Option.or · _) named)), bind_of_ok (rememberPort_of_named named _),
    Selection.judged, ← behind]
  cases options.quiet with
  | true => exact ⟨machine, rfl, rfl, rfl, rfl⟩
  | false =>
      exact ⟨{ machine with transcript := machine.transcript.remark _ }, rfl, rfl, rfl, rfl⟩

end Opening

/-! ## The handshake -/

section Handshakes

variable {port : SerialPort}

/-- The line of a port is left on the machine, and the history says whether it was closed. -/
theorem keepLine_leaves (port : SerialPort) (machine : Machine) :
    ∃ later, keepLine port machine = (.ok (), later) ∧
      machine.Leaves port.line "" (if port.isOpen then [] else [.closed port.name]) later := by
  refine ⟨_, rfl, ?_⟩
  cases port.isOpen with
  | true => exact ⟨rfl, String.append_empty.symm, rfl⟩
  | false => exact ⟨rfl, String.append_empty.symm, rfl⟩

/-- After a port is closed its line is left on the machine, and the history says so. -/
theorem keepLine_of_close
    (port : SerialPort)
    (closes : port.onClose = .finished (.ok ()))
    (machine : Machine) :
    ∃ later, keepLine (SerialPort.close port).2 machine = (.ok (), later) ∧
      machine.Leaves port.line "" [.closed port.name] later := by
  rw [SerialPort.close, closes]
  exact keepLine_leaves _ machine

/-- A handshake makes the session ready, or the run stops with the port closed. -/
theorem shakeHands_cases
    {handshake : Handshake}
    {budget : Duration}
    (isOpen : port.isOpen = true)
    (closes : port.onClose = .finished (.ok ()))
    (within : handshake.timeBudget? = some budget)
    (context : String)
    (settings : QueueSettings)
    (machine : Machine) :
    (∃ ready session later, handshake.execute port.line = (.ok .success, ready) ∧
      shakeHands context handshake (.overPort port settings) machine = (.ok session, later) ∧
      session.ReadyOn port settings ready ∧ machine.Leaves ready "" [] later) ∨
    ((handshake.execute port.line).1 ≠ .ok .success ∧
      ∃ stop last later,
        shakeHands context handshake (.overPort port settings) machine = (.error stop, later) ∧
        machine.Leaves last "" [.closed port.name] later) := by
  obtain ⟨ready, session, completed, finished, isReady⟩ |
      ⟨uncompleted, fault, session, last, finished, transport⟩ :=
    QueueSession.finishHandshake_cases within port settings
  · obtain ⟨later, left, leaves⟩ := keepLine_leaves session.queue.transport machine
    rw [isReady.transport, isOpen, if_pos rfl] at leaves
    refine .inl ⟨ready, session, later, completed, ?_, isReady, leaves⟩
    unfold shakeHands
    rw [finished]
    exact bind_of_ok left _
  · obtain ⟨later, left, leaves⟩ := keepLine_of_close { port with line := last } closes machine
    rw [← transport] at left
    obtain ⟨stop, stopped⟩ : ∃ stop, ofFault [context] (.error fault : Except Fault Unit) later =
        (.error stop, later) := by
      cases fault with
      | error cause => exact ⟨_, rfl⟩
      | crash => exact ⟨_, rfl⟩
    refine .inr ⟨uncompleted, stop, last, later, ?_, leaves⟩
    unfold shakeHands
    rw [finished]
    exact (bind_of_ok left _).trans (bind_of_stop stopped _)

end Handshakes

/-! ## The command -/

section Commands

variable {machine : Machine} {port : SerialPort} {settings : QueueSettings} {line : Line}
  {session : QueueSession SerialPort}

/-- Closing a session closes its port. -/
theorem close_of_ready
    (isReady : session.ReadyOn port settings line)
    (closes : port.onClose = .finished (.ok ())) :
    ∃ later, close session machine = (.ok (), later) ∧
      machine.Leaves line "" [.closed port.name] later := by
  rw [close, QueueSession.shutdown_of_ready isReady]
  exact keepLine_of_close { port with line := line } closes machine

/-- A response that was obtained is printed after the port was closed, and without one the run
stops with the port closed. -/
theorem sendOver_of_ready
    (isReady : session.ReadyOn port settings line)
    (closes : port.onClose = .finished (.ok ()))
    (json : Bool)
    (request : SerialCommand)
    (timeout : Duration)
    (machine : Machine) :
    (∃ response last later, request.execute line = (.ok response, last) ∧
      sendOver json request timeout session machine =
        ofCause response.verdict later ∧
      machine.Leaves last (response.printed json)
        [.closed port.name, .printed (response.printed json)] later) ∨
    ((∀ response, (request.execute line).1 ≠ .ok response) ∧
      ∃ stop last later, sendOver json request timeout session machine = (.error stop, later) ∧
        machine.Leaves last "" [.closed port.name] later) := by
  obtain ⟨result, used, executed, readyAgain, responds⟩ :=
    QueueSession.executeWithin_of_ready isReady request timeout
  obtain ⟨closedOn, closed, leaves⟩ : ∃ later, close used machine = (.ok (), later) ∧
      machine.Leaves (request.execute line).2 "" [.closed port.name] later :=
    close_of_ready readyAgain closes
  have ran : sendOver json request timeout session machine =
      (ofLink [] result >>= report json) closedOn := by
    unfold sendOver
    rw [executed]
    exact bind_of_ok closed _
  rw [ran]
  cases result with
  | error cause =>
      refine .inr ⟨?_, .failed ⟨[], .link cause⟩, _, closedOn, rfl, leaves⟩
      intro response obtained
      cases (responds response).2 obtained
  | ok response =>
      let shown : Machine :=
        { closedOn with transcript := closedOn.transcript.result (response.printed json) }
      have printed : closedOn.Leaves (request.execute line).2 (response.printed json)
          [.printed (response.printed json)] (shown.note (.printed (response.printed json))) := by
        refine ⟨?_, rfl, rfl⟩
        change closedOn.attached = _
        rw [leaves.attached, Option.map_map]
        rfl
      have both := leaves.trans printed
      rw [String.empty_append] at both
      exact .inl ⟨response, _, _, Prod.ext ((responds response).1 rfl) rfl, rfl, both⟩

end Commands

end Run

end DeviceLink
