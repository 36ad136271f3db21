import DeviceLink.Queue.Connect
import DeviceLink.Proofs.Queue.IdleSession
import DeviceLink.Proofs.Queue.Shutdown
import DeviceLink.Proofs.Reply.FailStop
import DeviceLink.Proofs.Reply.Handshake

/-!
# Connections that start with a handshake

A connection is handed out when the device has completed the handshake. In
every other case the caller gets the reason, and the queue is shut down and
its transport closed before. The caller waits for as long as the handshake may
take, so the answer of the queue is the end of the handshake and not a timeout.
-/

namespace DeviceLink

/-- An exchange that stops at failures ends with an error exactly when an operation failed. -/
theorem Line.FailStop.eq_error_iff
    {α : Type}
    {exchange : Exchange Line α}
    (stops : FailStop exchange)
    (line : Line)
    (fault : Fault) :
    (exchange line).1 = .error fault ↔
      ∃ operation ∈ line.since (exchange line).2, ∃ cause,
        operation.failure? = some cause ∧ fault = .error cause := by
  obtain ⟨performed, grown, ends⟩ := stops line
  rw [since_eq grown]
  generalize (exchange line).1 = outcome at ends
  cases ends with
  | value sound =>
      refine ⟨nofun, ?_⟩
      rintro ⟨operation, member, cause, failed, -⟩
      rw [sound operation member] at failed
      cases failed
  | @failure earlier last cause sound failed =>
      constructor
      · intro same
        cases same
        exact ⟨last, List.mem_concat_self, cause, failed, rfl⟩
      · rintro ⟨operation, member, other, failedSo, rfl⟩
        rcases List.mem_append.1 member with before | final
        · rw [sound operation before] at failedSo
          cases failedSo
        · rw [List.mem_singleton.1 final, failed] at failedSo
          cases failedSo
          rfl

namespace SerialPort

variable {port : SerialPort}

/-- A port is closed unless closing it gets stuck. -/
theorem isOpen_close (closes : port.onClose ≠ .stuck) : port.close.2.isOpen = false := by
  unfold close
  split
  next stuck => exact absurd stuck closes
  next => rfl

theorem line_close : port.close.2.line = port.line := by
  unfold close
  split
  · rfl
  · rfl

end SerialPort

namespace Handshake

variable {handshake : Handshake} {budget : Duration}

/-- A time budget that has a value is exact. -/
theorem nanos_of_timeBudget? (within : handshake.timeBudget? = some budget) :
    budget.nanos = handshake.timeBudgetNanos := by
  obtain ⟨once, drained, rest⟩ := Option.bind_eq_some_iff.1 within
  obtain ⟨both, doubled, total⟩ := Option.bind_eq_some_iff.1 rest
  rw [Duration.nanos_of_add? total, Duration.nanos_of_times? doubled,
    Duration.nanos_of_add? drained, timeBudgetNanos]
  omega

/-- The device is left alone for no longer than the settle delay. -/
theorem pauseAfter_le
    (handshake : Handshake)
    (result : StrategyResult) :
    ((Strategy.ofHandshake handshake).pauseAfter result).nanos ≤ handshake.settleDelay.nanos := by
  cases result with
  | error cause => exact Nat.zero_le _
  | ok response =>
      change (handshake.settling response).nanos ≤ _
      unfold settling
      split
      · exact Nat.le_refl _
      · exact Nat.zero_le _

end Handshake

/-- A handshake does not break down, so what a caller learns of it is how it ended. -/
theorem run_ofHandshake
    (handshake : Handshake)
    (port : SerialPort) :
    Line.outcomeOf ((Strategy.ofHandshake handshake).run port).1 =
        (handshake.execute port.line).1 ∧
      ((Strategy.ofHandshake handshake).run port).2 =
        { port with line := (handshake.execute port.line).2 } := by
  obtain ⟨_, _, ends⟩ := handshake.failStop_execute port.line
  simp only [Strategy.run, Strategy.ofHandshake, SerialPort.onLine]
  cases ended : handshake.execute port.line with
  | mk outcome line =>
      rw [ended] at ends
      cases outcome with
      | ok response => exact ⟨rfl, rfl⟩
      | error fault =>
          obtain ⟨cause, rfl⟩ := ends.fault_eq
          exact ⟨rfl, rfl⟩

namespace QueueSession

variable {session : QueueSession SerialPort} {handshake : Handshake} {budget : Duration}

/-- What the end of a handshake means for a connection to the port of this name. -/
def verdict (name : String) : Except Fault Response → Except Fault Unit
  | .ok response => Line.outcomeOf (judgeHandshake name response)
  | .error fault => .error fault

/-- What the answer of the queue to a handshake means for the connection. -/
def judgeAnswer
    (answered : StrategyResult × QueueSession SerialPort) :
    Except Fault Unit × QueueSession SerialPort :=
  (verdict answered.2.queue.name (Line.outcomeOf answered.1), answered.2)

/-- The caller waits for the longer of the task timeout and the time budget. -/
theorem performHandshake_of_budget (within : handshake.timeBudget? = some budget) :
    session.performHandshake handshake =
      judgeAnswer (session.executeWithin (.ofHandshake handshake)
        (session.queue.settings.taskTimeout.longer budget)) := by
  rw [performHandshake, within]
  dsimp only
  rcases session.executeWithin (.ofHandshake handshake) _ with ⟨_ | _, later⟩
  · rfl
  · rfl

/-- On an idle queue the answer is the end of the handshake. -/
theorem performHandshake_of_idle
    (idle : session.queue.Idle)
    (within : handshake.timeBudget? = some budget) :
    session.performHandshake handshake =
      (verdict session.queue.name (handshake.execute session.queue.transport.line).1,
        { session with queue := session.queue.executed (.ofHandshake handshake) }) := by
  have covered : ∀ result,
      ((Strategy.ofHandshake handshake).pauseAfter result).nanos ≤
        (session.queue.settings.taskTimeout.longer budget).nanos := by
    intro result
    have pause := handshake.pauseAfter_le result
    have exact := Handshake.nanos_of_timeBudget? within
    rw [Handshake.timeBudgetNanos] at exact
    rw [Duration.nanos_longer]
    omega
  rw [performHandshake_of_budget within, executeWithin_of_idle idle rfl rfl (covered _), judgeAnswer,
    (run_ofHandshake handshake _).1]
  rfl

/-- A handshake leaves an idle queue idle; without a time budget nothing is done. -/
theorem performHandshake_of_idle_cases
    (handshake : Handshake)
    (idle : session.queue.Idle) :
    ∃ outcome after, session.performHandshake handshake = (outcome, after) ∧ after.queue.Idle ∧
      ((∃ budget, handshake.timeBudget? = some budget ∧
          outcome = verdict session.queue.name
            (handshake.execute session.queue.transport.line).1 ∧
          after.queue.transport =
            { session.queue.transport with
              line := (handshake.execute session.queue.transport.line).2 }) ∨
        (handshake.timeBudget? = none ∧ outcome = .error .crash ∧ after = session)) := by
  cases within : handshake.timeBudget? with
  | none =>
      refine ⟨.error .crash, session, ?_, idle, .inr ⟨rfl, rfl, rfl⟩⟩
      rw [performHandshake, within]
  | some budget =>
      refine ⟨_, _, performHandshake_of_idle idle within, idle.executed _,
        .inl ⟨budget, rfl, rfl, (run_ofHandshake handshake _).2⟩⟩

/-! ## The verdict on a handshake -/

section Verdicts

variable {line : Line} {name : String}

@[simp] theorem verdict_error (fault : Fault) : verdict name (.error fault) = .error fault := rfl

@[simp] theorem verdict_success : verdict name (.ok .success) = .ok () := rfl

@[simp] theorem verdict_writeFailed :
    verdict name (.ok .writeFailed) = .error (.error (noStartup name)) := rfl

@[simp] theorem verdict_readFailed :
    verdict name (.ok ⟨true, false, none⟩) = .error (.error (noEcho name)) := rfl

/-- Only a handshake that succeeds is good enough for a connection. -/
theorem verdict_eq_ok_iff :
    verdict name (handshake.execute line).1 = .ok () ↔
      (handshake.execute line).1 = .ok .success := by
  have ending := handshake.ending_execute line
  generalize (handshake.execute line).1 = outcome at ending
  cases ending with
  | unannounced missed =>
      rw [verdict_writeFailed]
      simp [Response.writeFailed, Response.success]
  | confirmed answered found => simp
  | unconfirmed answered missed => simp [Response.success]
  | broken fault => simp

/-- The reason for a refusal is the error of the handshake, or tells which search missed. -/
theorem verdict_eq_error_iff {fault : Fault} :
    verdict name (handshake.execute line).1 = .error fault ↔
      (handshake.execute line).1 = .error fault ∨
      ((handshake.execute line).1 = .ok .writeFailed ∧ fault = .error (noStartup name)) ∨
      ((handshake.execute line).1 = .ok ⟨true, false, none⟩ ∧ fault = .error (noEcho name)) := by
  have ending := handshake.ending_execute line
  generalize (handshake.execute line).1 = outcome at ending
  cases ending with
  | unannounced missed =>
      rw [verdict_writeFailed]
      simp [Response.writeFailed, eq_comm]
  | confirmed answered found =>
      rw [verdict_success]
      simp [Response.writeFailed, Response.success]
  | unconfirmed answered missed => simp [Response.writeFailed, eq_comm]
  | broken fault => simp

end Verdicts

/-! ## The end of a connection -/

/-- The queue is shut down for good: its transport was given up to be closed, and whatever its users
do from now on, it accepts no strategy. -/
structure ShutDown
    {σ : Type} [Transport σ]
    (session : QueueSession σ) : Prop where
  /-- The queue says that it is closed. -/
  closing : session.queue.isOpen = false
  /-- The transport was given up to be closed. -/
  custody : session.queue.custody = .closed
  /-- After whatever its users do, a strategy that is handed in is refused. -/
  refuses : ∀ actions site, SharedQueue.run? actions (.ofSession session) = some site →
    ∀ strategy, site.queue.submit strategy = (.error .queueClosed, site.queue)

theorem shutDown_of_closing {σ : Type} [Transport σ] {session : QueueSession σ}
    (closing : session.queue.closing = true)
    (custody : session.queue.custody = .closed) :
    session.ShutDown where
  closing := by simp [CommandQueue.isOpen, closing]
  custody := custody
  refuses := by
    intro actions site ran strategy
    have stays := SharedQueue.run?_induction (fun site => site.queue.closing = true) closing
      (fun _ _ _ _ holds stepped => SharedQueue.closing_of_step? holds stepped) ran
    simp [CommandQueue.submit, CommandQueue.admits, stays]

/-- A connection whose handshake went well is kept, and any other one is shut down. -/
theorem finishHandshake_of_performed
    {outcome : Except Fault Unit}
    {after : QueueSession SerialPort}
    (performed : session.performHandshake handshake = (outcome, after))
    (idle : after.queue.Idle) :
    let run := session.finishHandshake handshake
    run.1 = outcome ∧ (outcome = .ok () → run.2 = after) ∧
    ∀ fault, outcome = .error fault →
      run.2.ShutDown ∧ run.2.queue.transport = (SerialPort.close after.queue.transport).2 := by
  intro run
  have ran : run = finishHandshake handshake session := rfl
  rw [finishHandshake, performed] at ran
  cases outcome with
  | ok done => exact ⟨congrArg Prod.fst ran, fun _ => congrArg Prod.snd ran, nofun⟩
  | error fault =>
      refine ⟨congrArg Prod.fst ran, nofun, fun _ _ => ?_⟩
      have closed : run.2 = after.shutdown.2 := congrArg Prod.snd ran
      rw [shutdown_of_idle idle] at closed
      rw [closed]
      exact ⟨shutDown_of_closing rfl rfl, rfl⟩

end QueueSession

end DeviceLink
