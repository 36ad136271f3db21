import DeviceLink.Proofs.Report.Framing
import DeviceLink.Report.Request

/-!
# Requests and the reports they consume

A request takes the id whose turn it is and writes one report under it, or
breaks down when there is no buffer for the report. From then on it only takes
events from the front of the port, and of the connection it changes nothing
else. A reply to it comes from the last report it took, and that
report ends with the id of the request.
-/

namespace DeviceLink

namespace ReportLayout

variable {layout : ReportLayout} {raw : List UInt8} {report : InputReport}

/-- A parsed report has its id from the last byte and its payload from what stands before. -/
theorem parse?_some (parsed : layout.parse? raw = some report) :
    raw.getLast? = some report.commandId ∧
      report.payload = (if layout.reportIdOnRead then raw.tail else raw).dropLast := by
  have whole := parse?_eq_some_iff.1 parsed
  constructor
  · rw [content] at whole
    split at whole
    · cases raw with
      | nil => simp at whole
      | cons first body =>
          rw [List.tail_cons] at whole
          simp [whole, List.getLast?_cons]
    · simp [whole]
  · change report.payload = (layout.content raw).dropLast
    rw [whole, List.dropLast_concat]

end ReportLayout

namespace ReportPort

theorem journal_takeReply (port : ReportPort) : port.takeReply.2.journal = port.journal := by
  unfold takeReply
  split
  · rfl
  · rfl

/-- A write to an open port adds itself to the journal, whether or not the device takes it. -/
theorem journal_write
    {port : ReportPort}
    {raw : List UInt8}
    (isOpen : port.isOpen = true)
    (filled : raw ≠ []) :
    ∃ accepted, (write raw port).2.journal = .wrote raw accepted :: port.journal := by
  have notEmpty : ¬ raw.isEmpty = true := fun empty => filled (List.isEmpty_iff.mp empty)
  have same := port.journal_takeReply
  rw [write, if_pos isOpen, if_neg notEmpty, transmit]
  cases taken : port.takeReply with
  | mk reply later =>
      rw [taken] at same
      rw [← same]
      cases reply with
      | refuse cause => exact ⟨false, rfl⟩
      | queue answers => exact ⟨true, rfl⟩
      | short written =>
          refine ⟨true, ?_⟩
          dsimp only
          split
          · rfl
          · rfl

/-- A write adds itself to the journal at most once, and just once if the port is open. -/
theorem writes_of_write (raw : List UInt8) (port : ReportPort) :
    ∃ writes, (write raw port).2.journal = writes ++ port.journal ∧
      (∀ operation ∈ writes, ∃ accepted, operation = .wrote raw accepted) ∧
      (port.isOpen = true → raw ≠ [] → writes.length = 1) := by
  by_cases noted : port.isOpen = true ∧ raw ≠ []
  · obtain ⟨accepted, wrote⟩ := journal_write noted.1 noted.2
    refine ⟨[.wrote raw accepted], wrote, ?_, fun _ _ => rfl⟩
    intro operation among
    exact ⟨accepted, List.mem_singleton.1 among⟩
  · refine ⟨[], ?_, nofun, fun isOpen filled => absurd ⟨isOpen, filled⟩ noted⟩
    rw [write]
    split
    · rename_i isOpen
      have empty : raw.isEmpty = true := by
        simpa [isOpen] using noted
      rw [if_pos empty]
      rfl
    · rfl

/-- A port whose reader took events from the front; only its journal of reads grew. -/
def Consumes (port : ReportPort) (consumed : List ReportEvent) (later : ReportPort) : Prop :=
  ∃ (left : List ReportEvent) (waits : List Nat),
    port.incoming = consumed ++ left ∧
    later = { port with
      incoming := left
      journal := waits.map ReportOperation.read ++ port.journal }

namespace Consumes

variable {port between later : ReportPort} {first second : List ReportEvent}

theorem refl (port : ReportPort) : port.Consumes [] port :=
  ⟨port.incoming, [], rfl, rfl⟩

theorem trans
    (early : port.Consumes first between)
    (late : between.Consumes second later) :
    port.Consumes (first ++ second) later := by
  obtain ⟨middle, waits, front, rfl⟩ := early
  obtain ⟨left, more, behind, rfl⟩ := late
  have rest : middle = second ++ left := behind
  refine ⟨left, more ++ waits, ?_, ?_⟩
  · rw [front, rest, List.append_assoc]
  · rw [List.map_append, List.append_assoc]

theorem head
    {event : ReportEvent}
    {rest : List ReportEvent}
    (waiting : port.incoming = event :: rest)
    (millis : Nat) :
    port.Consumes [event] { port.note (.read millis) with incoming := rest } :=
  ⟨rest, [millis], waiting, rfl⟩

end Consumes

/-- A read takes at most one event, and it yields bytes only from a report. -/
theorem read_cases
    (length : Nat)
    (wait : Duration)
    (port : ReportPort) :
    ∃ outcome later consumed,
      read length wait port = (outcome, later) ∧ port.Consumes consumed later ∧
      ∀ bytes, outcome = .ok bytes → bytes ≠ [] →
        ∃ raw, consumed = [.report raw] ∧ bytes = raw.take length := by
  obtain ⟨path, incoming, replies, otherwise, isOpen, journal⟩ := port
  cases isOpen with
  | false =>
      refine ⟨_, _, [], rfl, .refl _, ?_⟩
      intro bytes ended
      cases ended
  | true =>
      cases incoming with
      | nil =>
          refine ⟨_, _, [], rfl, ⟨[], [wait.wholeMillis], rfl, rfl⟩, ?_⟩
          rintro bytes ⟨⟩ filled
          exact absurd rfl filled
      | cons event rest =>
          cases event with
          | gap =>
              refine ⟨_, _, [.gap], rfl, .head rfl _, ?_⟩
              rintro bytes ⟨⟩ filled
              exact absurd rfl filled
          | failure cause =>
              refine ⟨_, _, [.failure cause], rfl, .head rfl _, ?_⟩
              intro bytes ended
              cases ended
          | report raw =>
              refine ⟨_, _, [.report raw], rfl, .head rfl _, ?_⟩
              rintro bytes ⟨⟩ -
              exact ⟨raw, rfl, rfl⟩

end ReportPort

namespace ReportConnection

/-- An exchange over the port changes nothing else of a connection. -/
theorem onPort_eq
    {α : Type}
    {exchange : Exchange ReportPort α}
    {connection : ReportConnection}
    {outcome : Except Fault α}
    {port : ReportPort}
    (ran : exchange connection.port = (outcome, port)) :
    onPort exchange connection = (outcome, { connection with port := port }) := by
  unfold onPort
  rw [ran]

/-- A connection after the next id was taken and something was written to its port. -/
def sent (port : ReportPort) (connection : ReportConnection) : ReportConnection :=
  { connection with nextId := connection.nextId + 1, port := port }

/-- What a write hands to the port, and the port behind it: the report assembled under the id whose
turn it is, or nothing when no report can be assembled. -/
def transmit (payload : List UInt8) (connection : ReportConnection) :
    Except Fault Unit × ReportPort :=
  match connection.layout.assemble? payload connection.nextId with
  | none => (.error .crash, connection.port)
  | some report => ReportPort.write report connection.port

section Writes

variable {payload report : List UInt8} {connection : ReportConnection}

theorem transmit_of_assembled
    (assembled : connection.layout.assemble? payload connection.nextId = some report) :
    transmit payload connection = ReportPort.write report connection.port := by
  rw [transmit, assembled]

theorem transmit_of_unassembled
    (unassembled : connection.layout.assemble? payload connection.nextId = none) :
    transmit payload connection = (.error .crash, connection.port) := by
  rw [transmit, unassembled]

/-- With a buffer for it, a write hands the port a report that is framed with the id whose turn it
is. -/
theorem transmit_eq_write
    (holds : 2 ≤ connection.layout.outputLength)
    (fits : connection.layout.outputLength ≤ Buffer.longest)
    (payload : List UInt8) :
    transmit payload connection =
      ReportPort.write (connection.layout.frame payload connection.nextId) connection.port :=
  transmit_of_assembled (ReportLayout.assemble?_eq_frame holds fits payload connection.nextId)

/-- Without a buffer for it, a write breaks down in front of the port. -/
theorem transmit_past_longest
    (past : Buffer.longest < connection.layout.outputLength)
    (payload : List UInt8) :
    transmit payload connection = (.error .crash, connection.port) :=
  transmit_of_unassembled (ReportLayout.assemble?_eq_none past payload connection.nextId)

/-- What a write hands to the port adds itself to the journal at most once, and just once if the port
is open and there is a buffer for it. -/
theorem writes_of_transmit
    (holds : 2 ≤ connection.layout.outputLength)
    (payload : List UInt8) :
    ∃ writes, (transmit payload connection).2.journal = writes ++ connection.port.journal ∧
      (∀ operation ∈ writes, ∃ accepted,
        operation = .wrote (connection.layout.frame payload connection.nextId) accepted) ∧
      (connection.port.isOpen = true → connection.layout.outputLength ≤ Buffer.longest →
        writes.length = 1) := by
  by_cases fits : connection.layout.outputLength ≤ Buffer.longest
  · obtain ⟨writes, wrote, only, one⟩ :=
      ReportPort.writes_of_write (connection.layout.frame payload connection.nextId)
        connection.port
    rw [transmit_eq_write holds fits]
    exact ⟨writes, wrote, only, fun isOpen _ => one isOpen (connection.layout.frame_ne_nil _ _)⟩
  · rw [transmit_past_longest (Nat.lt_of_not_le fits)]
    exact ⟨[], rfl, nofun, fun _ within => absurd within fits⟩

/-- A write takes the next id, whatever comes of what it hands to the port. -/
theorem write_of_transmit
    {outcome : Except Fault Unit}
    {port : ReportPort}
    (transmitted : transmit payload connection = (outcome, port)) :
    write payload connection =
      (outcome.map fun _ => connection.nextId, connection.sent port) := by
  cases assembled : connection.layout.assemble? payload connection.nextId with
  | none =>
      rw [transmit_of_unassembled assembled] at transmitted
      cases transmitted
      have broken : Exchange.ofOption (connection.layout.assemble? payload connection.nextId)
          (connection.sent connection.port) = (.error .crash, connection.sent connection.port) := by
        rw [assembled]
        rfl
      exact Exchange.bind_of_error broken _
  | some report =>
      rw [transmit_of_assembled assembled] at transmitted
      have made : Exchange.ofOption (connection.layout.assemble? payload connection.nextId)
          (connection.sent connection.port) = (.ok report, connection.sent connection.port) := by
        rw [assembled]
        rfl
      have handed : onPort (ReportPort.write report) (connection.sent connection.port) =
          (outcome, connection.sent port) :=
        onPort_eq transmitted
      refine (Exchange.bind_of_ok made _).trans ?_
      cases outcome with
      | ok done => exact Exchange.bind_of_ok handed _
      | error fault => exact Exchange.bind_of_error handed _

end Writes

/-- A connection of which only the port changed, whose reader took events from the front. -/
def Consumes
    (connection : ReportConnection)
    (consumed : List ReportEvent)
    (later : ReportConnection) : Prop :=
  ∃ port, connection.port.Consumes consumed port ∧ later = { connection with port := port }

namespace Consumes

variable {connection between later : ReportConnection} {first second : List ReportEvent}

theorem refl (connection : ReportConnection) : connection.Consumes [] connection :=
  ⟨connection.port, .refl connection.port, rfl⟩

theorem trans
    (early : connection.Consumes first between)
    (late : between.Consumes second later) :
    connection.Consumes (first ++ second) later := by
  obtain ⟨middle, front, rfl⟩ := early
  obtain ⟨port, behind, rfl⟩ := late
  exact ⟨port, front.trans behind, rfl⟩

theorem nextId_eq (consumes : connection.Consumes first later) :
    later.nextId = connection.nextId := by
  obtain ⟨port, -, rfl⟩ := consumes
  rfl

theorem layout_eq (consumes : connection.Consumes first later) :
    later.layout = connection.layout := by
  obtain ⟨port, -, rfl⟩ := consumes
  rfl

end Consumes

/-- With a buffer for it, a read asks the port for a report and parses what it gets. -/
theorem read_eq
    {connection : ReportConnection}
    (fits : connection.layout.inputLength ≤ Buffer.longest)
    (wait : Duration) :
    read wait connection =
      (onPort (ReportPort.read connection.layout.inputLength wait) >>= fun raw =>
        pure (if raw.isEmpty then none else connection.layout.parse? raw)) connection := by
  have reserved : reserve connection.layout.inputLength connection = (.ok (), connection) := by
    rw [reserve, if_pos fits]
    rfl
  exact Exchange.bind_of_ok reserved _

/-- Without a buffer for it, a read breaks down in front of the port. -/
theorem read_past_longest
    {connection : ReportConnection}
    (past : Buffer.longest < connection.layout.inputLength)
    (wait : Duration) :
    read wait connection = (.error .crash, connection) := by
  have broken : reserve connection.layout.inputLength connection = (.error .crash, connection) := by
    rw [reserve, if_neg (Nat.not_le_of_lt past)]
    rfl
  exact Exchange.bind_of_error broken _

/-- A read yields a report only from the one event that it took. -/
theorem read_cases (wait : Duration) (connection : ReportConnection) :
    ∃ outcome later consumed,
      read wait connection = (outcome, later) ∧ connection.Consumes consumed later ∧
      ∀ report, outcome = .ok (some report) →
        ∃ raw, consumed = [.report raw] ∧
          connection.layout.parse? (raw.take connection.layout.inputLength) = some report := by
  by_cases fits : connection.layout.inputLength ≤ Buffer.longest
  · obtain ⟨outcome, port, consumed, ran, took, bytesFrom⟩ :=
      ReportPort.read_cases connection.layout.inputLength wait connection.port
    have handed := onPort_eq ran
    rw [read_eq fits]
    cases outcome with
    | error fault =>
        refine ⟨_, _, consumed, Exchange.bind_of_error handed _, ⟨port, took, rfl⟩, ?_⟩
        intro report ended
        cases ended
    | ok bytes =>
        refine ⟨_, _, consumed, Exchange.bind_of_ok handed _, ⟨port, took, rfl⟩, ?_⟩
        intro report yielded
        have parsed := Except.ok.inj yielded
        split at parsed
        · cases parsed
        · rename_i filled
          obtain ⟨raw, single, rfl⟩ :=
            bytesFrom bytes rfl fun empty => filled (List.isEmpty_iff.mpr empty)
          exact ⟨raw, single, parsed⟩
  · have past := Nat.lt_of_not_le fits
    refine ⟨_, _, [], read_past_longest past wait, .refl connection, ?_⟩
    intro report ended
    cases ended

end ReportConnection

namespace ReportRequest

/-- A read that fails ends the request unanswered if it does not end it with a fault. -/
theorem readReport_of_failure
    {request : ReportRequest}
    {connection later : ReportConnection}
    {fault : Fault}
    (failed : ReportConnection.read request.wait connection = (.error fault, later)) :
    request.readReport connection = (.error fault, later) ∨
      request.readReport connection = (.ok (.error unanswered), later) := by
  unfold readReport
  rw [failed]
  cases fault with
  | crash => exact .inl rfl
  | error cause =>
      cases gone : cause.isDisconnect with
      | true => exact .inl (if_pos gone)
      | false => exact .inr (if_neg (Bool.eq_false_iff.mp gone))

/-- Reading a report ends the request unanswered if it ends it with a response at all. -/
theorem readReport_cases (request : ReportRequest) (connection : ReportConnection) :
    ∃ outcome later consumed,
      request.readReport connection = (outcome, later) ∧ connection.Consumes consumed later ∧
      (∀ response, outcome = .ok (.error response) → response = unanswered) ∧
      ∀ report, outcome = .ok (.ok (some report)) →
        ∃ raw, consumed = [.report raw] ∧
          connection.layout.parse? (raw.take connection.layout.inputLength) = some report := by
  obtain ⟨outcome, later, consumed, ran, took, reportFrom⟩ :=
    ReportConnection.read_cases request.wait connection
  cases outcome with
  | ok report? =>
      have read : request.readReport connection = (.ok (.ok report?), later) := by
        unfold readReport
        rw [ran]
      refine ⟨_, later, consumed, read, took, ?_, ?_⟩
      · intro response ended
        cases ended
      · intro report yielded
        exact reportFrom report (congrArg Except.ok (Except.ok.inj (Except.ok.inj yielded)))
  | error fault =>
      obtain stopped | stopped := readReport_of_failure ran
      · refine ⟨_, later, consumed, stopped, took, ?_, ?_⟩
        · intro response ended
          cases ended
        · intro report yielded
          cases yielded
      · refine ⟨_, later, consumed, stopped, took, ?_, ?_⟩
        · rintro response ⟨⟩
          rfl
        · intro report yielded
          cases yielded

/-- A response that was made from the last of the events that were consumed: a report that ends
with the id of the request. -/
def AnsweredBy
    (request : ReportRequest)
    (layout : ReportLayout)
    (commandId : UInt8)
    (consumed : List ReportEvent)
    (response : Response) : Prop :=
  ∃ skipped raw report,
    consumed = skipped ++ [.report raw] ∧
    layout.parse? (raw.take layout.inputLength) = some report ∧
    report.commandId = commandId ∧
    response.data = some (report.payload.take request.size)

theorem AnsweredBy.append
    {request : ReportRequest}
    {layout : ReportLayout}
    {commandId : UInt8}
    {consumed : List ReportEvent}
    {response : Response}
    (answered : request.AnsweredBy layout commandId consumed response)
    (earlier : List ReportEvent) :
    request.AnsweredBy layout commandId (earlier ++ consumed) response := by
  obtain ⟨skipped, raw, report, rfl, answer⟩ := answered
  exact ⟨earlier ++ skipped, raw, report, (List.append_assoc _ _ _).symm, answer⟩

/-- Waiting for a reply only takes events, and the last one of them is what a reply is made
from. -/
theorem awaitReply_cases
    (request : ReportRequest)
    (commandId : UInt8)
    (reads : Nat)
    (connection : ReportConnection) :
    ∃ outcome later consumed,
      request.awaitReply commandId reads connection = (outcome, later) ∧
      connection.Consumes consumed later ∧
      ∀ response, outcome = .ok response → response.isSuccess = true →
        request.AnsweredBy connection.layout commandId consumed response := by
  induction reads generalizing connection with
  | zero =>
      refine ⟨_, _, [], rfl, .refl connection, ?_⟩
      rintro response ⟨⟩ success
      cases success
  | succ reads inductionHypothesis =>
      obtain ⟨outcome, next, consumed, ran, took, unansweredFrom, reportFrom⟩ :=
        request.readReport_cases connection
      have goesOn :
          ∃ outcome later consumed,
            request.awaitReply commandId reads next = (outcome, later) ∧
            connection.Consumes consumed later ∧
            ∀ response, outcome = .ok response → response.isSuccess = true →
              request.AnsweredBy connection.layout commandId consumed response := by
        obtain ⟨outcome, later, more, awaited, tookMore, answered⟩ := inductionHypothesis next
        rw [took.layout_eq] at answered
        refine ⟨outcome, later, consumed ++ more, awaited, took.trans tookMore, ?_⟩
        intro response ended success
        exact (answered response ended success).append consumed
      cases outcome with
      | error fault =>
          refine ⟨_, next, consumed, Exchange.bind_of_error ran _, took, ?_⟩
          intro response ended
          cases ended
      | ok read =>
          rw [awaitReply, Exchange.bind_of_ok ran]
          cases read with
          | error response =>
              refine ⟨_, next, consumed, rfl, took, ?_⟩
              rintro response ⟨⟩ success
              rw [unansweredFrom response rfl] at success
              cases success
          | ok report? =>
              cases report? with
              | none => exact goesOn
              | some report =>
                  obtain ⟨raw, rfl, parsed⟩ := reportFrom report rfl
                  by_cases same : report.commandId = commandId
                  · refine ⟨.ok ⟨true, true, some (report.payload.take request.size)⟩, next,
                      [.report raw], ?_, took, ?_⟩
                    · simp only [if_pos same]
                      rfl
                    · rintro response ⟨⟩ -
                      exact ⟨[], raw, report, rfl, parsed, same, rfl⟩
                  · simp only [if_neg same]
                    exact goesOn

/-- A write that fails ends the request, with a fault or with a response that says so. -/
theorem execute_of_refused
    {request : ReportRequest}
    {connection later : ReportConnection}
    {fault : Fault}
    (refused :
      ReportConnection.write request.command.bytes connection = (.error fault, later)) :
    request.execute connection = (.error fault, later) ∨
      request.execute connection = (.ok .writeFailed, later) := by
  unfold execute
  rw [refused]
  cases fault with
  | crash => exact .inl rfl
  | error cause =>
      cases gone : cause.isDisconnect with
      | true => exact .inl (if_pos gone)
      | false => exact .inr (if_neg (Bool.eq_false_iff.mp gone))

/-- A request whose report has no buffer breaks down; of the connection only the id is used up. -/
theorem execute_past_longest
    {connection : ReportConnection}
    (past : Buffer.longest < connection.layout.outputLength)
    (request : ReportRequest) :
    request.execute connection = (.error .crash, connection.sent connection.port) := by
  have broken :=
    ReportConnection.write_of_transmit
      (ReportConnection.transmit_past_longest past request.command.bytes)
  rw [execute, broken]
  rfl

/-- A request that ends with a response had a buffer for its report. -/
theorem fits_of_execute_ok
    {request : ReportRequest}
    {connection : ReportConnection}
    {response : Response}
    (ended : (request.execute connection).1 = .ok response) :
    connection.layout.outputLength ≤ Buffer.longest := by
  refine Nat.le_of_not_lt fun past => ?_
  rw [execute_past_longest past] at ended
  cases ended

/-- Executing a request writes it under the id whose turn it is, whatever comes of the write,
and then only takes events. A success is made from the last of them. -/
theorem execute_cases
    (request : ReportRequest)
    (connection : ReportConnection) :
    ∃ outcome later consumed,
      request.execute connection = (outcome, later) ∧
      ReportConnection.Consumes
        (connection.sent (ReportConnection.transmit request.command.bytes connection).2)
        consumed later ∧
      ∀ response, outcome = .ok response → response.isSuccess = true →
        request.AnsweredBy connection.layout connection.nextId consumed response := by
  cases transmitted : ReportConnection.transmit request.command.bytes connection with
  | mk accepted port =>
      have wrote := ReportConnection.write_of_transmit transmitted
      cases accepted with
      | ok done =>
          obtain ⟨outcome, later, consumed, ran, took, answered⟩ :=
            request.awaitReply_cases connection.nextId
              (request.readsAllowed (connection.sent port)) (connection.sent port)
          refine ⟨outcome, later, consumed, ?_, took, answered⟩
          unfold execute
          rw [wrote]
          exact ran
      | error fault =>
          obtain stopped | stopped := execute_of_refused wrote
          · refine ⟨_, _, [], stopped, .refl _, ?_⟩
            intro response ended
            cases ended
          · refine ⟨_, _, [], stopped, .refl _, ?_⟩
            rintro response ⟨⟩ success
            cases success

end ReportRequest

end DeviceLink
