import DeviceLink.Proofs.Report.Requests

/-!
# Replies belong to their requests

A connection numbers its executions: the id of the next command is their
number so far, modulo 256, whatever became of them and whatever the device
delivered in the meantime. A reply is therefore made from a report with the
number of its own execution, and never from one that answers an execution
fewer than 256 before or after it.
-/

namespace DeviceLink

/-- What happens to a connection: the device delivers events, a request is executed, or the
port is closed. -/
inductive ReportStep
  | deliver (events : List ReportEvent)
  | execute (request : ReportRequest)
  | close

namespace ReportStep

/-- The connection after a step. -/
def apply : ReportStep → ReportConnection → ReportConnection
  | deliver events, connection =>
      { connection with port :=
        { connection.port with incoming := connection.port.incoming ++ events } }
  | execute request, connection => (request.execute connection).2
  | close, connection => { connection with port := connection.port.close }

/-- How many executions a step is: one or none. -/
def executed : ReportStep → Nat
  | execute _ => 1
  | _ => 0

/-- The connection after a run of steps. -/
def run : List ReportStep → ReportConnection → ReportConnection
  | [], connection => connection
  | step :: steps, connection => run steps (step.apply connection)

/-- How many executions a run of steps has. -/
def executions : List ReportStep → Nat
  | [] => 0
  | step :: steps => step.executed + executions steps

end ReportStep

namespace ReportConnection

/-- A connection after a number of executions: its next id is that number modulo 256, and its
layout is the one that it was made with. -/
structure Counted
    (layout : ReportLayout)
    (executions : Nat)
    (connection : ReportConnection) : Prop where
  /-- The id counts the executions modulo 256. -/
  nextId_eq : connection.nextId = UInt8.ofNat executions
  /-- The layout has not changed. -/
  layout_eq : connection.layout = layout

namespace Counted

variable {layout : ReportLayout} {executions : Nat} {connection : ReportConnection}

theorem of_ofPort?
    {port : ReportPort}
    {descriptor : DeviceDescriptor}
    (opened : ofPort? port descriptor = .ok connection) :
    Counted connection.layout 0 connection := by
  unfold ofPort? at opened
  cases required : descriptor.requireReports with
  | error cause =>
      rw [required] at opened
      cases opened
  | ok layout =>
      rw [required] at opened
      cases checked : layout.check with
      | error cause =>
          simp [checked, bind, Except.bind] at opened
      | ok done =>
          simp only [checked, bind, Except.bind, pure, Except.pure, Except.ok.injEq] at opened
          subst opened
          exact ⟨rfl, rfl⟩

/-- An execution takes one id, also when its write fails. -/
theorem execute
    (counted : Counted layout executions connection)
    (request : ReportRequest) :
    Counted layout (executions + 1) (request.execute connection).2 := by
  obtain ⟨outcome, later, consumed, ran, took, -⟩ := request.execute_cases connection
  rw [ran]
  refine ⟨?_, took.layout_eq.trans counted.layout_eq⟩
  rw [took.nextId_eq, UInt8.ofNat_add, ← counted.nextId_eq]
  rfl

theorem step
    (counted : Counted layout executions connection)
    (step : ReportStep) :
    Counted layout (executions + step.executed) (step.apply connection) := by
  cases step with
  | deliver events => exact ⟨counted.nextId_eq, counted.layout_eq⟩
  | execute request => exact counted.execute request
  | close => exact ⟨counted.nextId_eq, counted.layout_eq⟩

/-- A run of steps counts its executions. -/
theorem run
    (counted : Counted layout executions connection)
    (steps : List ReportStep) :
    Counted layout (executions + ReportStep.executions steps)
      (ReportStep.run steps connection) := by
  induction steps generalizing executions connection with
  | nil => exact counted
  | cons step steps inductionHypothesis =>
      have next := inductionHypothesis (counted.step step)
      rw [Nat.add_assoc] at next
      exact next

end Counted

end ReportConnection

namespace ReportRequest

/-- Ids of the same value belong to executions whose numbers differ by a multiple of 256. -/
theorem dvd_sub_of_ofNat_eq
    {count other : Nat}
    (same : UInt8.ofNat count = UInt8.ofNat other) :
    (256 : Int) ∣ count - other := by
  have values := congrArg UInt8.toNat same
  rw [UInt8.toNat_ofNat', UInt8.toNat_ofNat'] at values
  omega

/-- All that the execution after any run on a new connection writes is one report, which ends with
the number of executions so far modulo 256; it does write it to an open port, unless there is no
buffer for it. If it succeeds, its data is taken from the last report that it took from the port,
and that report ends with the same number; so it is no report for another execution, unless the
numbers of both differ by a multiple of 256. -/
theorem execute_attributed
    {port : ReportPort}
    {descriptor : DeviceDescriptor}
    {connection : ReportConnection}
    (opened : ReportConnection.ofPort? port descriptor = .ok connection)
    (steps : List ReportStep)
    (request : ReportRequest) :
    let before := ReportStep.run steps connection
    let count := ReportStep.executions steps
    let layout := connection.layout
    let report := layout.frame request.command.bytes (UInt8.ofNat count)
    let written := (ReportPort.write report before.port).2
    let later := (request.execute before).2.port
    (UInt8.ofNat count).toNat = count % 256 ∧
    report.getLast? = some (UInt8.ofNat count) ∧
    (∃ writes waits,
      later.journal = List.map ReportOperation.read waits ++ writes ++ before.port.journal ∧
      (∀ operation ∈ writes, ∃ accepted, operation = .wrote report accepted) ∧
      (before.port.isOpen = true → layout.outputLength ≤ Buffer.longest → writes.length = 1)) ∧
    ∀ response, (request.execute before).1 = .ok response → response.isSuccess = true →
      ∃ skipped full,
        written.incoming = skipped ++ .report full :: later.incoming ∧
        let raw := full.take layout.inputLength
        raw.getLast? = some (UInt8.ofNat count) ∧
        response.data =
          some ((if layout.reportIdOnRead then raw.tail else raw).dropLast.take request.size) ∧
        ∀ other : Nat, raw.getLast? = some (UInt8.ofNat other) → (256 : Int) ∣ count - other := by
  intro before count layout report written later
  have counted : ReportConnection.Counted layout (0 + count) before :=
    (ReportConnection.Counted.of_ofPort? opened).run steps
  rw [Nat.zero_add] at counted
  have holds : 2 ≤ before.layout.outputLength := by
    rw [counted.layout_eq]
    exact ReportConnection.two_le_of_ofPort? opened
  obtain ⟨outcome, after, consumed, ran, ⟨port, took, rfl⟩, answered⟩ :=
    request.execute_cases before
  obtain ⟨left, waits, front, rfl⟩ := took
  rw [counted.nextId_eq, counted.layout_eq] at answered
  refine ⟨UInt8.toNat_ofNat', layout.getLast?_frame _ _, ?_, ?_⟩
  · obtain ⟨writes, wrote, only, one⟩ :=
      ReportConnection.writes_of_transmit holds request.command.bytes
    rw [counted.nextId_eq, counted.layout_eq] at only
    rw [counted.layout_eq] at one
    refine ⟨writes, waits, ?_, only, one⟩
    unfold later
    rw [ran, List.append_assoc, ← wrote]
    rfl
  · intro response ended success
    have handed : ReportConnection.transmit request.command.bytes before =
        ReportPort.write report before.port := by
      rw [ReportConnection.transmit_eq_write holds (fits_of_execute_ok ended), counted.nextId_eq,
        counted.layout_eq]
    have later_incoming : later.incoming = left := by
      unfold later
      rw [ran]
    rw [ran] at ended
    rw [handed] at front
    obtain ⟨skipped, full, input, rfl, parsed, tagged, data⟩ := answered response ended success
    obtain ⟨tag, payload⟩ := ReportLayout.parse?_some parsed
    rw [tagged] at tag
    rw [payload] at data
    refine ⟨skipped, full, ?_, tag, data, ?_⟩
    · rw [later_incoming]
      exact front.trans (List.append_assoc _ _ _)
    · intro other tagOther
      exact dvd_sub_of_ofNat_eq (Option.some.inj (tag.symm.trans tagOther))

/-- The first request is given up; its reply comes late, in front of the reply to the second
request, which succeeds with its own. -/
theorem execute_attributed_past_stale_reply :
    let layout : ReportLayout := ⟨5, 5, true⟩
    let descriptor := DeviceDescriptor.reporting "port" 0x2354 0x1111 (some layout)
    let port : ReportPort :=
      { path := "port"
        replies := [.queue [], .queue [.tagged 255 [1, 2] true, .tagged 0 [3, 4] true]] }
    let connection : ReportConnection :=
      { port := port, descriptor := descriptor, layout := layout }
    let request : ReportRequest := { command := ⟨[0x54]⟩, size := 1 }
    let before := ReportStep.run [.execute request] connection
    ReportConnection.ofPort? port descriptor = .ok connection ∧
      (request.execute connection).1 = .ok unanswered ∧
      (request.execute before).1 = .ok (.successWith [3]) ∧
      ∃ skipped full,
        (ReportPort.write (layout.frame [0x54] 1) before.port).2.incoming =
          skipped ++ .report full :: (request.execute before).2.port.incoming ∧
        (full.take 5).getLast? = some 1 := by
  intro layout descriptor port connection request before
  have opened : ReportConnection.ofPort? port descriptor = .ok connection := rfl
  have success : (request.execute before).1 = .ok (.successWith [3]) := by cbv
  refine ⟨opened, rfl, success, ?_⟩
  obtain ⟨-, -, -, answered⟩ := execute_attributed opened [.execute request] request
  obtain ⟨skipped, full, front, tag, -⟩ := answered (.successWith [3]) success rfl
  have framed : connection.layout.frame request.command.bytes
      (UInt8.ofNat (ReportStep.executions [.execute request])) = layout.frame [0x54] 1 := rfl
  have stepped : ReportStep.run [.execute request] connection = before := rfl
  rw [framed, stepped] at front
  exact ⟨skipped, full, front, tag⟩

end ReportRequest

end DeviceLink
