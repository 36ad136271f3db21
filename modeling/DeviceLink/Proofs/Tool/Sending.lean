import DeviceLink.Proofs.Tool.Output
import DeviceLink.Proofs.Reply.LengthField
import DeviceLink.Proofs.Tool.PortUse

/-!
# Sending a command with the tool

Whatever the device does, a run that sends a command closes the port before
anything is reported. A response that was obtained is shown with all its bytes,
and the exit code says whether it is a success.
-/

namespace DeviceLink

/-- No failure has the exit code of a success. -/
theorem FailureCause.exitCode_ne_zero (cause : FailureCause) : cause.exitCode ≠ 0 := by
  cases cause with
  | link error =>
      cases error with
      | _ => simp [exitCode]
  | _ => simp [exitCode]

/-- A run that stops early has not the exit code of a success. -/
theorem SessionEnd.exitCode_stopped_ne_zero (stop : Stop) : (stopped stop).exitCode ≠ 0 := by
  cases stop with
  | crashed => decide
  | failed failure => exact failure.cause.exitCode_ne_zero

/-- A response that is no success means a failure without an exit code of its own. -/
theorem Response.verdict_cases (response : Response) :
    (response.isSuccess = true ∧ response.verdict = .ok ()) ∨
      (response.isSuccess = false ∧ ∃ text, response.verdict = .error (.other text)) := by
  unfold verdict
  cases response.isSuccess with
  | true => exact .inl ⟨rfl, rfl⟩
  | false =>
      cases response.writeOk with
      | true => exact .inr ⟨rfl, _, rfl⟩
      | false => exact .inr ⟨rfl, _, rfl⟩

/-- A length field that does not fit its header is a fault of the configuration. -/
theorem SendOptions.shape_error
    {options : SendOptions}
    {fault : Fault}
    (failed : options.shape = .error fault) :
    fault = .crash ∨ ∃ text, fault = .error (.config text) := by
  unfold SendOptions.shape at failed
  split at failed
  · obtain ⟨-, crashed⟩ | ⟨-, -, refused⟩ | ⟨-, -, accepted⟩ :=
      ReplyShape.withLengthField_cases options.lengthField _ _
    · cases crashed.symm.trans failed
      exact .inl rfl
    · cases refused.symm.trans failed
      exact .inr ⟨_, rfl⟩
    · cases accepted.symm.trans failed
  · cases failed

section Sessions

variable {machine later : Machine} {words : List String} {options : Options}

/-- A session whose command is carried out is finished. -/
theorem Machine.runTool_of_performed
    (read : Options.read machine.environment words = .ok options)
    (performed : Run.perform options machine = (.ok (), later)) :
    machine.runTool words = (.finished, later) := by
  simp only [runTool, read, performed]

/-- A session whose command stops is stopped. -/
theorem Machine.runTool_of_stopped
    {stop : Stop}
    (read : Options.read machine.environment words = .ok options)
    (stopped : Run.perform options machine = (.error stop, later)) :
    machine.runTool words = (.stopped stop, later) := by
  simp only [runTool, read, stopped]

end Sessions

/-- A command line that sends a command to the device behind a port that it names. No computation
of a size or of a time limit passes the range of its numbers. -/
structure SendRun (machine : Machine) (words : List String) where
  /-- The options on the command line. -/
  options : Options
  /-- What the command line says about the command to send. -/
  wanted : SendOptions
  /-- The configuration of the run. -/
  config : Config
  /-- The name of the port. -/
  name : String
  /-- The device that is attached to the machine. -/
  device : AttachedLine
  /-- How long the run waits for its response. -/
  timeout : Duration
  /-- The command line is read as these options. -/
  read_eq : Options.read machine.environment words = .ok options
  /-- The options ask for the command to be sent. -/
  command_eq : options.command = .send wanted
  /-- The options name the port. -/
  named : options.port = some name
  /-- The configuration can be loaded. -/
  loaded : Run.loadConfig options.configPath machine = (.ok config, machine)
  /-- The machine has the device. -/
  attached : machine.attached = some device
  /-- The device is behind the port that the name means. -/
  behind : device.path = (Selection.named (DeviceDescriptor.serialPorts machine.ports) name).path
  /-- The check of the length field does not break down. -/
  sized : wanted.shape ≠ .error .crash
  /-- There is a duration for the wait. -/
  timed : SendOptions.timeout? config.lineSettings config.queueSettings = some timeout
  /-- There is a duration for the time budget of the handshake, if one is asked for. -/
  bounded : ∀ handshake, wanted.handshake.handshake? config = some handshake →
    ∃ budget, handshake.timeBudget? = some budget

namespace SendRun

variable {machine : Machine} {words : List String} (run : SendRun machine words)

/-- The device is ready for the command, with this line: no handshake was asked for, or it was
completed. -/
inductive DeviceReady : Line → Prop
  | unasked (unasked : run.wanted.handshake.handshake? run.config = none) :
      DeviceReady run.device.line
  | shaken
      {handshake : Handshake}
      {ready : Line}
      (asked : run.wanted.handshake.handshake? run.config = some handshake)
      (completed : handshake.execute run.device.line = (.ok .success, ready)) :
      DeviceReady ready

/-- The command was executed with this response, and left this line. -/
def Responds (response : Response) (last : Line) : Prop :=
  ∃ shape ready, run.wanted.shape = .ok shape ∧ run.DeviceReady ready ∧
    SerialCommand.execute ⟨⟨run.wanted.command⟩, shape, run.config.lineSettings⟩ ready =
      (.ok response, last)

variable {run}

theorem DeviceReady.eq
    {ready other : Line}
    (first : run.DeviceReady ready)
    (second : run.DeviceReady other) :
    ready = other := by
  cases first with
  | unasked unasked =>
      cases second with
      | unasked _ => rfl
      | shaken asked _ => cases unasked.symm.trans asked
  | shaken asked completed =>
      cases second with
      | unasked unasked => cases unasked.symm.trans asked
      | shaken askedAlso completedAlso =>
          cases asked.symm.trans askedAlso
          cases completed.symm.trans completedAlso
          rfl

theorem Responds.eq
    {response other : Response}
    {last lastAlso : Line}
    (first : run.Responds response last)
    (second : run.Responds other lastAlso) :
    response = other ∧ last = lastAlso := by
  obtain ⟨shape, ready, shaped, isReady, executed⟩ := first
  obtain ⟨shapeAlso, readyAlso, shapedAlso, isReadyAlso, executedAlso⟩ := second
  cases shaped.symm.trans shapedAlso
  cases isReady.eq isReadyAlso
  cases executed.symm.trans executedAlso
  exact ⟨rfl, rfl⟩

variable (run)

/-- The port that is opened. -/
def port : SerialPort :=
  Run.portOf run.options run.config run.device

/-- The run opens its port. Then the device is ready, or the run stops with the port closed. -/
theorem openSerial_cases :
    (∃ ready session later, run.DeviceReady ready ∧
      Run.openSerial run.options run.config run.wanted.handshake machine = (.ok session, later) ∧
      session.ReadyOn run.port run.config.queueSettings ready ∧
      machine.Leaves ready "" [.opened run.device.path] later) ∨
    ((∀ ready, ¬ run.DeviceReady ready) ∧
      ∃ stop last later,
        Run.openSerial run.options run.config run.wanted.handshake machine =
          (.error stop, later) ∧
        machine.Leaves last "" [.opened run.device.path, .closed run.device.path] later) := by
  obtain ⟨between, opened, ran⟩ :=
    Run.openSerial_of_named run.config run.wanted.handshake run.named run.attached run.behind
  rw [ran]
  cases asked : run.wanted.handshake.handshake? run.config with
  | none =>
      exact .inl ⟨_, _, between, .unasked asked, rfl,
        ⟨CommandQueue.idle_start _ _ none, rfl, rfl⟩, opened⟩
  | some handshake =>
      obtain ⟨budget, within⟩ := run.bounded handshake asked
      have isOpen : run.port.isOpen = true := rfl
      obtain ⟨ready, session, later, completed, shaken, isReady, leaves⟩ |
          ⟨uncompleted, stop, last, later, stopped, leaves⟩ :=
        Run.shakeHands_cases isOpen rfl within ("Handshake on " ++ run.device.path ++ " failed")
          run.config.queueSettings between
      · exact .inl ⟨ready, session, later, .shaken asked completed, shaken, isReady,
          opened.trans leaves⟩
      · refine .inr ⟨?_, stop, last, later, stopped, opened.trans leaves⟩
        intro ready isReady
        cases isReady with
        | unasked unasked => cases unasked.symm.trans asked
        | shaken askedAlso completed =>
            cases asked.symm.trans askedAlso
            exact uncompleted (congrArg Prod.fst completed)

/-- The run reports a response that was obtained after the port was closed, or it stops with the
port closed. -/
theorem send_cases
    {shape : ReplyShape}
    (shaped : run.wanted.shape = .ok shape) :
    (∃ response last later, run.Responds response last ∧
      Run.send run.options run.config run.wanted machine =
        Run.ofCause response.verdict later ∧
      machine.Leaves last (response.printed run.wanted.json)
        [.opened run.device.path, .closed run.device.path,
          .printed (response.printed run.wanted.json)] later) ∨
    ((∀ response last, ¬ run.Responds response last) ∧
      ∃ stop last later,
        Run.send run.options run.config run.wanted machine = (.error stop, later) ∧
        machine.Leaves last "" [.opened run.device.path, .closed run.device.path] later) := by
  have shapeKnown : Run.ofFault [] run.wanted.shape machine = (.ok shape, machine) := by
    rw [shaped]
    rfl
  unfold Run.send
  rw [Run.bind_of_ok shapeKnown]
  obtain ⟨ready, session, between, isReady, opened, sessionReady, leaves⟩ |
      ⟨unready, stop, last, later, stopped, leaves⟩ := run.openSerial_cases
  · have timeKnown :
        SendOptions.timeout? run.config.lineSettings session.queue.settings = some run.timeout := by
      rw [sessionReady.settings, run.timed]
    rw [Run.bind_of_ok opened, timeKnown]
    obtain ⟨response, last, later, executed, sent, closed⟩ |
        ⟨unanswered, stop, last, later, stopped, closed⟩ :=
      Run.sendOver_of_ready sessionReady rfl run.wanted.json
        ⟨⟨run.wanted.command⟩, shape, run.config.lineSettings⟩ run.timeout between
    · refine .inl ⟨response, last, later, ⟨shape, ready, shaped, isReady, executed⟩, sent, ?_⟩
      have both := leaves.trans closed
      rw [String.empty_append] at both
      exact both
    · refine .inr ⟨?_, stop, last, later, stopped, leaves.trans closed⟩
      rintro response last ⟨shapeAlso, readyAlso, shapedAlso, isReadyAlso, executed⟩
      cases shaped.symm.trans shapedAlso
      cases isReady.eq isReadyAlso
      exact unanswered response (congrArg Prod.fst executed)
  · refine .inr ⟨?_, stop, last, later, Run.bind_of_stop stopped _, leaves⟩
    rintro response last ⟨shapeAlso, ready, shapedAlso, isReady, executed⟩
    exact unready ready isReady

/-- What the run carries out is the sending of the command. -/
theorem perform_eq :
    Run.perform run.options machine = Run.send run.options run.config run.wanted machine := by
  unfold Run.perform
  rw [Run.bind_of_ok run.loaded, Run.command, run.command_eq]

/-- The exit code after a response that was reported. -/
theorem exitCode_of_reported
    {response : Response}
    {later : Machine}
    (sent : Run.send run.options run.config run.wanted machine =
      Run.ofCause response.verdict later) :
    (machine.runTool words).1.exitCode = (if response.isSuccess then 0 else 1) ∧
      (machine.runTool words).2 = later := by
  obtain ⟨success, judged⟩ | ⟨failure, text, judged⟩ := response.verdict_cases
  · rw [judged] at sent
    rw [Machine.runTool_of_performed run.read_eq (run.perform_eq.trans sent), success]
    exact ⟨rfl, rfl⟩
  · rw [judged] at sent
    rw [Machine.runTool_of_stopped run.read_eq (run.perform_eq.trans sent), failure]
    exact ⟨rfl, rfl⟩

/-- A length field outside its header ends the run before anything is done. -/
theorem exitCode_of_misfit
    {fault : Fault}
    (unfit : run.wanted.shape = .error fault) :
    (machine.runTool words).1.exitCode = 3 ∧ (machine.runTool words).2 = machine := by
  obtain rfl | ⟨text, rfl⟩ := SendOptions.shape_error unfit
  · exact absurd unfit run.sized
  · have stopped : Run.send run.options run.config run.wanted machine =
        (.error (.failed ⟨[], .link (.config text)⟩), machine) := by
      unfold Run.send
      apply Run.bind_of_stop
      rw [unfit]
      rfl
    rw [Machine.runTool_of_stopped run.read_eq (run.perform_eq.trans stopped)]
    exact ⟨rfl, rfl⟩

/-- A response that was obtained is shown after the port was closed, and decides the exit code. -/
theorem reported_of_responds
    {response : Response}
    {last : Line}
    (responds : run.Responds response last) :
    (machine.runTool words).1.exitCode = (if response.isSuccess then 0 else 1) ∧
      ∃ hex printed, response.Shows run.wanted.json hex printed ∧
        machine.Leaves last printed
          [.opened run.device.path, .closed run.device.path, .printed printed]
          (machine.runTool words).2 := by
  obtain ⟨shape, -, shaped, -⟩ := id responds
  obtain ⟨same, lastSame, after, respondsAlso, sent, leaves⟩ | ⟨unanswered, -⟩ :=
    run.send_cases shaped
  · obtain ⟨rfl, rfl⟩ := responds.eq respondsAlso
    obtain ⟨exit, left⟩ := run.exitCode_of_reported sent
    refine ⟨exit, _, _, response.shows_printed run.wanted.json, ?_⟩
    rw [left]
    exact leaves
  · exact absurd responds (unanswered response last)

/-- Without a response the port is closed, nothing is shown, and the run is no success. -/
theorem stopped_of_unanswered
    {shape : ReplyShape}
    (shaped : run.wanted.shape = .ok shape)
    (unanswered : ∀ response last, ¬ run.Responds response last) :
    (machine.runTool words).1.exitCode ≠ 0 ∧
      ∃ last, machine.Leaves last "" [.opened run.device.path, .closed run.device.path]
        (machine.runTool words).2 := by
  obtain ⟨response, last, -, responds, -⟩ | ⟨-, stop, last, after, sent, leaves⟩ :=
    run.send_cases shaped
  · exact absurd responds (unanswered response last)
  · rw [Machine.runTool_of_stopped run.read_eq (run.perform_eq.trans sent)]
    exact ⟨SessionEnd.exitCode_stopped_ne_zero stop, last, leaves⟩

/-- The exit code is that of a success exactly when the response is one. -/
theorem exitCode_eq_zero_iff :
    (machine.runTool words).1.exitCode = 0 ↔
      ∃ response last, run.Responds response last ∧ response.isSuccess = true := by
  constructor
  · intro success
    cases shaped : run.wanted.shape with
    | error fault =>
        rw [(run.exitCode_of_misfit shaped).1] at success
        exact absurd success (by decide)
    | ok shape =>
        by_cases answered : ∃ response last, run.Responds response last
        · obtain ⟨response, last, responds⟩ := answered
          have exit := (run.reported_of_responds responds).1
          cases isSuccess : response.isSuccess with
          | true => exact ⟨response, last, responds, isSuccess⟩
          | false =>
              rw [success, isSuccess] at exit
              exact absurd exit (by decide)
        · have none : ∀ response last, ¬ run.Responds response last :=
            fun response last responds => answered ⟨response, last, responds⟩
          exact absurd success (run.stopped_of_unanswered shaped none).1
  · rintro ⟨response, last, responds, isSuccess⟩
    have exit := (run.reported_of_responds responds).1
    rw [isSuccess] at exit
    exact exit

end SendRun

/-- A configuration that cannot be read ends a run before anything is done. -/
theorem Machine.runTool_of_unloaded
    {machine : Machine}
    {words : List String}
    {options : Options}
    {stop : Stop}
    (read : Options.read machine.environment words = .ok options)
    (unloaded : (Run.loadConfig options.configPath machine).1 = .error stop) :
    (machine.runTool words).1.exitCode = 3 ∧ (machine.runTool words).2 = machine := by
  cases named : options.configPath with
  | none =>
      rw [named] at unloaded
      cases unloaded
  | some path =>
      rw [named] at unloaded
      cases loaded : machine.files.loadFrom path with
      | ok config =>
          rw [Run.loadConfig, loaded] at unloaded
          cases unloaded
      | error fault =>
          have failed : Run.loadConfig options.configPath machine =
              (.error (.failed (.of (.config fault.message))), machine) := by
            rw [named, Run.loadConfig, loaded]
          rw [runTool_of_stopped read (Run.bind_of_stop failed (Run.command options))]
          exact ⟨rfl, rfl⟩

/-- A run that sends a command exits with success exactly when the handshake that was asked for was
completed and the response to the command is a success. A configuration that cannot be read, and a
length field outside its header, end it as faults of the configuration with the machine as before.
Else the port is opened, and whatever the device does it is closed before a response is printed or
the run stops. A response that was obtained is shown with all its bytes, also when it is none of a
success. -/
theorem Machine.runTool_reports (machine : Machine) (words : List String) :
    let ended := (machine.runTool words).1
    let later := (machine.runTool words).2
    (∀ options stop, Options.read machine.environment words = .ok options →
      (Run.loadConfig options.configPath machine).1 = .error stop →
        ended.exitCode = 3 ∧ later = machine) ∧
    ∀ run : SendRun machine words,
      (ended.exitCode = 0 ↔
        ∃ response last, run.Responds response last ∧ response.isSuccess = true) ∧
      (∀ fault, run.wanted.shape = .error fault → ended.exitCode = 3 ∧ later = machine) ∧
      (∀ response last, run.Responds response last →
        ended.exitCode = (if response.isSuccess then 0 else 1) ∧
        ∃ hex printed, response.Shows run.wanted.json hex printed ∧
          machine.Leaves last printed
            [.opened run.device.path, .closed run.device.path, .printed printed] later) ∧
      (∀ shape, run.wanted.shape = .ok shape →
        (∀ response last, ¬ run.Responds response last) →
          ended.exitCode ≠ 0 ∧ ∃ last,
            machine.Leaves last "" [.opened run.device.path, .closed run.device.path] later) := by
  intro ended later
  refine ⟨?_, ?_⟩
  · intro options stop read unloaded
    exact runTool_of_unloaded read unloaded
  · intro run
    refine ⟨run.exitCode_eq_zero_iff, ?_, ?_, ?_⟩
    · intro fault unfit
      exact run.exitCode_of_misfit unfit
    · intro response last responds
      exact run.reported_of_responds responds
    · intro shape shaped unanswered
      exact run.stopped_of_unanswered shaped unanswered

/-- A device completes the handshake and stops in the middle of a framed reply: what arrived is
shown after the port was closed, and the run is no success. -/
theorem Machine.runTool_reports_cut_reply :
    let replies : List LineReply :=
      [.answer [] (some {}) [], .answer [.gap] (some {}) [.byte 0xAA, .byte 2, .gap, .byte 7]]
    let line : Line := { Line.quiet replies .silent with incoming := [.gap, .byte 0x52] }
    let machine : Machine :=
      { files := { tree := { entries := [], working := [] }, globalDirectory := some [] }
        home := []
        dataDirectory := []
        configDirectory := []
        attached := some ⟨"ttyS0", line⟩ }
    let words := ["--port", "ttyS0", "send", "4C", "--header-size", "2", "--length-offset", "1",
      "--startup", "52", "--response", "4F"]
    (machine.runTool words).1.exitCode = 1 ∧
      ∃ printed, Hex.readBytes printed = .ok [0xAA, 2, 7] ∧
        (machine.runTool words).2.transcript.results = printed ∧
        (machine.runTool words).2.history =
          [.printed printed, .closed "ttyS0", .opened "ttyS0"] := by
  intro replies line machine words
  let wanted : SendOptions :=
    { command := [0x4C], responseSize := none, headerSize := some 2, lengthOffset := some 1,
      lengthField := .byte, handshake := { startup := some [0x52], response := some [0x4F] },
      json := false }
  let options : Options := { port := some "ttyS0", command := .send wanted }
  let handshake : Handshake := { startup := [0x52], response := [0x4F] }
  let config : Config := {}
  let shape : ReplyShape := .framed 2 (LengthField.byte.lengthAt? 1)
  let request : SerialCommand := ⟨⟨wanted.command⟩, shape, config.lineSettings⟩
  have read : Options.read machine.environment words = .ok options := by decide +kernel
  have loaded : Run.loadConfig options.configPath machine = (.ok config, machine) := rfl
  have asked : wanted.handshake.handshake? config = some handshake := by cbv
  let run : SendRun machine words :=
    { options := options
      wanted := wanted
      config := config
      name := "ttyS0"
      device := ⟨"ttyS0", line⟩
      timeout := .ofMillis 32000
      read_eq := read
      command_eq := rfl
      named := rfl
      loaded := loaded
      attached := rfl
      behind := by cbv
      sized := by
        intro crashed
        cases crashed
      timed := by decide +kernel
      bounded := by
        intro other also
        cases asked.symm.trans also
        exact ⟨.ofMillis 12600, by decide +kernel⟩ }
  have completed : (handshake.execute line).1 = .ok .success := by decide +kernel
  have executed :
      (request.execute (handshake.execute line).2).1 = .ok (.readFailed [0xAA, 2, 7]) := by
    decide +kernel
  generalize shaken : handshake.execute line = first at completed executed
  obtain ⟨outcome, ready⟩ := first
  generalize cut : request.execute ready = second at executed
  obtain ⟨result, last⟩ := second
  obtain rfl : outcome = .ok .success := completed
  obtain rfl : result = .ok (.readFailed [0xAA, 2, 7]) := executed
  have responds : run.Responds (.readFailed [0xAA, 2, 7]) last :=
    ⟨shape, ready, rfl, .shaken asked shaken, cut⟩
  obtain ⟨-, -, reported, -⟩ := (runTool_reports machine words).2 run
  obtain ⟨exit, hex, printed, shows, leaves⟩ := reported _ _ responds
  have filled : (Response.readFailed [0xAA, 2, 7]).bytes ≠ [] := List.cons_ne_nil _ _
  refine ⟨exit, printed, ?_, ?_, leaves.history⟩
  · rw [shows.form, if_neg Bool.false_ne_true, if_neg (shows.empty_iff.not.2 filled)]
    exact shows.readLine filled
  · exact leaves.results.trans String.empty_append

end DeviceLink
