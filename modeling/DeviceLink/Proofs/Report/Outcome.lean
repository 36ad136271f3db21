import DeviceLink.Proofs.Report.Requests

/-!
# The outcome of one request

Each event that a request meets either decides its outcome or is passed over.
What the first deciding event says is the outcome, and the events behind it
stay unread. If no event decides, the request ends unanswered, with nothing
left to read. Reports that are longer than the longest buffer are neither
written nor read: the request breaks down in front of the port.
-/

namespace DeviceLink

namespace ReportPort

/-- A write ends with an error of the link, or it ends on a port that stays open. -/
theorem write_cases (raw : List UInt8) (port : ReportPort) :
    (∃ cause later, write raw port = (.error (.error cause), later)) ∨
      ∃ later, write raw port = (.ok (), later) ∧ later.isOpen = true := by
  have kept : port.takeReply.2.isOpen = port.isOpen := by
    unfold takeReply
    split
    · rfl
    · rfl
  rw [write]
  split
  · rename_i isOpen
    rw [isOpen] at kept
    split
    · exact .inl ⟨_, _, rfl⟩
    · rw [transmit]
      cases taken : port.takeReply with
      | mk reply later =>
          rw [taken] at kept
          cases reply with
          | refuse cause => exact .inl ⟨_, _, rfl⟩
          | queue answers => exact .inr ⟨_, rfl, kept⟩
          | short written =>
              dsimp only
              split
              · exact .inl ⟨_, _, rfl⟩
              · exact .inr ⟨_, rfl, kept⟩
  · exact .inl ⟨_, _, rfl⟩

end ReportPort

namespace ReportConnection

/-- A connection that was read a number of times and left these events. -/
def after
    (wait : Duration)
    (reads : Nat)
    (unread : List ReportEvent)
    (connection : ReportConnection) : ReportConnection :=
  { connection with port := { connection.port with
      incoming := unread
      journal := List.replicate reads (.read wait.wholeMillis) ++ connection.port.journal } }

theorem after_after
    (wait : Duration)
    (early late : Nat)
    (between unread : List ReportEvent)
    (connection : ReportConnection) :
    (connection.after wait early between).after wait late unread =
      connection.after wait (early + late) unread := by
  simp only [after, ← List.append_assoc, List.replicate_append_replicate, Nat.add_comm late]

/-- What a read makes of an event. -/
def receive (layout : ReportLayout) : ReportEvent → Except Fault (Option InputReport)
  | .gap => .ok none
  | .failure cause => .error (.error cause)
  | .report raw => .ok (layout.parse? (raw.take layout.inputLength))

section Reads

variable {connection : ReportConnection} {event : ReportEvent} {rest : List ReportEvent}

/-- A read takes the event in front. -/
theorem read_of_event
    (wait : Duration)
    (fits : connection.layout.inputLength ≤ Buffer.longest)
    (isOpen : connection.port.isOpen = true)
    (waiting : connection.port.incoming = event :: rest) :
    read wait connection = (receive connection.layout event, connection.after wait 1 rest) := by
  rw [read_eq fits]
  obtain ⟨⟨path, incoming, replies, otherwise, opened, journal⟩, descriptor, layout, nextId⟩ :=
    connection
  subst isOpen waiting
  cases event with
  | gap => rfl
  | failure cause => rfl
  | report raw =>
      have parsed :
          (if (raw.take layout.inputLength).isEmpty then none
            else layout.parse? (raw.take layout.inputLength)) =
          layout.parse? (raw.take layout.inputLength) := by
        cases raw.take layout.inputLength with
        | nil => exact layout.parse?_nil.symm
        | cons first body => rfl
      rw [receive, ← parsed]
      rfl

/-- A read of a port on which nothing waits yields no report. -/
theorem read_of_nil
    (wait : Duration)
    (fits : connection.layout.inputLength ≤ Buffer.longest)
    (isOpen : connection.port.isOpen = true)
    (waiting : connection.port.incoming = []) :
    read wait connection = (.ok none, connection.after wait 1 []) := by
  rw [read_eq fits]
  obtain ⟨⟨path, incoming, replies, otherwise, opened, journal⟩, descriptor, layout, nextId⟩ :=
    connection
  subst isOpen waiting
  rfl

end Reads

end ReportConnection

namespace ReportRequest

/-! ## Events that decide -/

/-- What an event says about the outcome of the request with a command id, if it decides: a report
that ends with the id is the reply, and a failure ends the request. -/
def verdict?
    (request : ReportRequest)
    (layout : ReportLayout)
    (commandId : UInt8) : ReportEvent → Option (Except Fault Response)
  | .gap => none
  | .failure cause => some (if cause.isDisconnect then .error (.error cause) else .ok unanswered)
  | .report raw =>
      let content := layout.content (raw.take layout.inputLength)
      if content.getLast? = some commandId then
        some (.ok (.successWith (content.dropLast.take request.size)))
      else none

section Waiting

variable {request : ReportRequest} {connection : ReportConnection} {commandId : UInt8}
  {event : ReportEvent} {skipped rest : List ReportEvent} {reads : Nat}

/-- A deciding event ends the wait for a reply. -/
theorem awaitReply_of_verdict
    {outcome : Except Fault Response}
    (fits : connection.layout.inputLength ≤ Buffer.longest)
    (isOpen : connection.port.isOpen = true)
    (waiting : connection.port.incoming = event :: rest)
    (decides : request.verdict? connection.layout commandId event = some outcome) :
    request.awaitReply commandId (reads + 1) connection =
      (outcome, connection.after request.wait 1 rest) := by
  have taken := ReportConnection.read_of_event request.wait fits isOpen waiting
  cases event with
  | gap => cases decides
  | failure cause =>
      cases gone : cause.isDisconnect with
      | true =>
          have read : request.readReport connection =
              (.error (.error cause), connection.after request.wait 1 rest) := by
            simp [readReport, taken, ReportConnection.receive, gone]
          simp only [verdict?, gone, if_true, Option.some.injEq] at decides
          subst decides
          exact Exchange.bind_of_error read _
      | false =>
          have read : request.readReport connection =
              (.ok (.error unanswered), connection.after request.wait 1 rest) := by
            simp [readReport, taken, ReportConnection.receive, gone]
          simp only [verdict?, gone, Bool.false_eq_true, if_false, Option.some.injEq] at decides
          subst decides
          exact Exchange.bind_of_ok read _
  | report raw =>
      simp only [verdict?] at decides
      split at decides
      · rename_i tagged
        cases decides
        have read : request.readReport connection =
            (.ok (.ok (some
              ⟨(connection.layout.content (raw.take connection.layout.inputLength)).dropLast,
                commandId⟩)), connection.after request.wait 1 rest) := by
          simp [readReport, taken, ReportConnection.receive, ReportLayout.parse?_eq, tagged]
        refine (Exchange.bind_of_ok read _).trans ?_
        simp only [if_true]
        rfl
      · cases decides

/-- An event that does not decide is passed over. -/
theorem awaitReply_of_no_verdict
    (fits : connection.layout.inputLength ≤ Buffer.longest)
    (isOpen : connection.port.isOpen = true)
    (waiting : connection.port.incoming = event :: rest)
    (undecided : request.verdict? connection.layout commandId event = none) :
    request.awaitReply commandId (reads + 1) connection =
      request.awaitReply commandId reads (connection.after request.wait 1 rest) := by
  have taken := ReportConnection.read_of_event request.wait fits isOpen waiting
  cases event with
  | gap =>
      have read : request.readReport connection =
          (.ok (.ok none), connection.after request.wait 1 rest) := by
        simp [readReport, taken, ReportConnection.receive]
      exact Exchange.bind_of_ok read _
  | failure cause => cases undecided
  | report raw =>
      simp only [verdict?] at undecided
      split at undecided
      · cases undecided
      · rename_i other
        have read : request.readReport connection =
            (.ok (.ok (connection.layout.parse? (raw.take connection.layout.inputLength))),
              connection.after request.wait 1 rest) := by
          simp [readReport, taken, ReportConnection.receive]
        rw [ReportLayout.parse?_eq] at read
        refine (Exchange.bind_of_ok read _).trans ?_
        cases last :
            (connection.layout.content (raw.take connection.layout.inputLength)).getLast? with
        | none => rfl
        | some tag =>
            have differs : tag ≠ commandId := fun same => other (by rw [last, same])
            simp only [Option.map_some, if_neg differs]

/-- Events that do not decide are passed over, one read each. -/
theorem awaitReply_of_skipped
    (fits : connection.layout.inputLength ≤ Buffer.longest)
    (isOpen : connection.port.isOpen = true)
    (waiting : connection.port.incoming = skipped ++ rest)
    (undecided : ∀ other ∈ skipped, request.verdict? connection.layout commandId other = none) :
    request.awaitReply commandId (skipped.length + reads) connection =
      request.awaitReply commandId reads (connection.after request.wait skipped.length rest) := by
  -- Each event costs one read, and the connection behind it has one event less.
  induction skipped generalizing connection with
  | nil =>
      have same : connection.after request.wait 0 rest = connection := by
        obtain ⟨⟨path, incoming, replies, otherwise, opened, journal⟩, descriptor, layout, nextId⟩ :=
          connection
        subst waiting
        rfl
      rw [List.length_nil, Nat.zero_add, same]
  | cons event skipped inductionHypothesis =>
      have rearranged : (event :: skipped).length + reads = (skipped.length + reads) + 1 := by
        rw [List.length_cons]
        omega
      have goesOn :
          request.awaitReply commandId (skipped.length + reads)
              (connection.after request.wait 1 (skipped ++ rest)) =
            request.awaitReply commandId reads
              ((connection.after request.wait 1 (skipped ++ rest)).after request.wait
                skipped.length rest) :=
        inductionHypothesis fits isOpen rfl fun other among =>
          undecided other (List.mem_cons_of_mem event among)
      rw [ReportConnection.after_after, Nat.add_comm 1] at goesOn
      rw [rearranged, List.length_cons, ← goesOn]
      exact awaitReply_of_no_verdict fits isOpen waiting (undecided event List.mem_cons_self)

/-- The first deciding event is the outcome, and what stands behind it stays unread. -/
theorem awaitReply_of_decided
    {outcome : Except Fault Response}
    (fits : connection.layout.inputLength ≤ Buffer.longest)
    (isOpen : connection.port.isOpen = true)
    (waiting : connection.port.incoming = skipped ++ event :: rest)
    (undecided : ∀ other ∈ skipped, request.verdict? connection.layout commandId other = none)
    (decides : request.verdict? connection.layout commandId event = some outcome) :
    request.awaitReply commandId (connection.port.incoming.length + 1) connection =
      (outcome, connection.after request.wait (skipped.length + 1) rest) := by
  have enough :
      connection.port.incoming.length + 1 = skipped.length + (rest.length + 1 + 1) := by
    rw [waiting, List.length_append, List.length_cons]
    omega
  have ends :
      request.awaitReply commandId (rest.length + 1 + 1)
          (connection.after request.wait skipped.length (event :: rest)) =
        (outcome,
          (connection.after request.wait skipped.length (event :: rest)).after request.wait 1
            rest) :=
    awaitReply_of_verdict fits isOpen rfl decides
  rw [ReportConnection.after_after] at ends
  rw [enough, awaitReply_of_skipped fits isOpen waiting undecided]
  exact ends

/-- When no event decides, all are read and the request ends unanswered. -/
theorem awaitReply_of_undecided
    (fits : connection.layout.inputLength ≤ Buffer.longest)
    (isOpen : connection.port.isOpen = true)
    (undecided : ∀ other ∈ connection.port.incoming,
      request.verdict? connection.layout commandId other = none) :
    request.awaitReply commandId (connection.port.incoming.length + 1) connection =
      (.ok unanswered,
        connection.after request.wait (connection.port.incoming.length + 1) []) := by
  rw [awaitReply_of_skipped fits isOpen (List.append_nil _).symm undecided]
  have nothing : request.readReport
      (connection.after request.wait connection.port.incoming.length []) =
        (.ok (.ok none),
          connection.after request.wait (connection.port.incoming.length + 1) []) := by
    have read :
        ReportConnection.read request.wait
            (connection.after request.wait connection.port.incoming.length []) =
          (.ok none,
            (connection.after request.wait connection.port.incoming.length []).after request.wait
              1 []) :=
      ReportConnection.read_of_nil request.wait fits isOpen rfl
    rw [ReportConnection.after_after] at read
    rw [readReport, read]
  exact Exchange.bind_of_ok nothing _

/-- Without a buffer for a report the first read for a reply breaks down. -/
theorem awaitReply_past_longest
    (request : ReportRequest)
    (commandId : UInt8)
    (reads : Nat)
    (past : Buffer.longest < connection.layout.inputLength) :
    request.awaitReply commandId (reads + 1) connection = (.error .crash, connection) := by
  have broken : request.readReport connection = (.error .crash, connection) := by
    rw [readReport, ReportConnection.read_past_longest past]
  exact Exchange.bind_of_error broken _

/-- No event says that the request breaks down. -/
theorem verdict?_ne_crash
    (request : ReportRequest)
    (layout : ReportLayout)
    (commandId : UInt8)
    (event : ReportEvent) :
    request.verdict? layout commandId event ≠ some (.error .crash) := by
  cases event with
  | gap => simp [verdict?]
  | failure cause => cases gone : cause.isDisconnect <;> simp [verdict?, gone]
  | report raw =>
      simp only [verdict?]
      split
      · simp
      · simp

end Waiting

/-! ## Outcomes -/

/-- What a request hands to the port, and the port behind it: its report under the id whose turn it
is, or nothing when there is no buffer for the report. -/
def transmit (request : ReportRequest) (connection : ReportConnection) :
    Except Fault Unit × ReportPort :=
  ReportConnection.transmit request.command.bytes connection

/-- How a request ends, and the connection that it leaves. -/
inductive Ends (request : ReportRequest) (connection : ReportConnection) :
    Except Fault Response → ReportConnection → Prop
  | unframed
      {port : ReportPort}
      (wrote : request.transmit connection = (.error .crash, port)) :
      Ends request connection (.error .crash) (connection.sent port)
  | lost
      {cause : LinkError}
      {port : ReportPort}
      (wrote : request.transmit connection = (.error (.error cause), port))
      (gone : cause.isDisconnect = true) :
      Ends request connection (.error (.error cause)) (connection.sent port)
  | refused
      {cause : LinkError}
      {port : ReportPort}
      (wrote : request.transmit connection = (.error (.error cause), port))
      (present : cause.isDisconnect = false) :
      Ends request connection (.ok .writeFailed) (connection.sent port)
  | untimed
      {port : ReportPort}
      (wrote : request.transmit connection = (.ok (), port))
      (noTime : request.readTimeout.positive = false) :
      Ends request connection (.ok unanswered) (connection.sent port)
  | unreadable
      {port : ReportPort}
      (wrote : request.transmit connection = (.ok (), port))
      (timed : request.readTimeout.positive = true)
      (past : Buffer.longest < connection.layout.inputLength) :
      Ends request connection (.error .crash) (connection.sent port)
  | decided
      {port : ReportPort}
      {skipped rest : List ReportEvent}
      {event : ReportEvent}
      {outcome : Except Fault Response}
      (wrote : request.transmit connection = (.ok (), port))
      (timed : request.readTimeout.positive = true)
      (fits : connection.layout.inputLength ≤ Buffer.longest)
      (waiting : port.incoming = skipped ++ event :: rest)
      (undecided : ∀ other ∈ skipped,
        request.verdict? connection.layout connection.nextId other = none)
      (decides : request.verdict? connection.layout connection.nextId event = some outcome) :
      Ends request connection outcome
        ((connection.sent port).after request.wait (skipped.length + 1) rest)
  | undecided
      {port : ReportPort}
      (wrote : request.transmit connection = (.ok (), port))
      (timed : request.readTimeout.positive = true)
      (fits : connection.layout.inputLength ≤ Buffer.longest)
      (undecided : ∀ other ∈ port.incoming,
        request.verdict? connection.layout connection.nextId other = none) :
      Ends request connection (.ok unanswered)
        ((connection.sent port).after request.wait (port.incoming.length + 1) [])

section Outcomes

variable {request : ReportRequest} {connection later : ReportConnection} {port : ReportPort}
  {outcome : Except Fault Response}

/-- A write breaks down, or ends with an error of the link, or ends on a port that stays open. -/
theorem transmit_cases (request : ReportRequest) (connection : ReportConnection) :
    (∃ port, request.transmit connection = (.error .crash, port)) ∨
      (∃ cause port, request.transmit connection = (.error (.error cause), port)) ∨
        ∃ port, request.transmit connection = (.ok (), port) ∧ port.isOpen = true := by
  unfold transmit
  cases assembled :
      connection.layout.assemble? request.command.bytes connection.nextId with
  | none => exact .inl ⟨_, ReportConnection.transmit_of_unassembled assembled⟩
  | some report =>
      rw [ReportConnection.transmit_of_assembled assembled]
      exact .inr (ReportPort.write_cases report connection.port)

/-- After a write that goes well the request waits for its reply. -/
theorem execute_of_transmitted (wrote : request.transmit connection = (.ok (), port)) :
    request.execute connection =
      request.awaitReply connection.nextId (request.readsAllowed (connection.sent port))
        (connection.sent port) := by
  rw [execute, ReportConnection.write_of_transmit wrote]
  rfl

/-- After a write that goes well the port is open. -/
theorem isOpen_of_transmitted (wrote : request.transmit connection = (.ok (), port)) :
    port.isOpen = true := by
  obtain ⟨later, broke⟩ | ⟨cause, later, failed⟩ | ⟨later, went, isOpen⟩ :=
    request.transmit_cases connection
  · cases wrote.symm.trans broke
  · cases wrote.symm.trans failed
  · cases wrote.symm.trans went
    exact isOpen

/-- A request ends as it is said to end. -/
theorem Ends.execute_eq (ends : request.Ends connection outcome later) :
    request.execute connection = (outcome, later) := by
  cases ends with
  | unframed wrote =>
      rw [execute, ReportConnection.write_of_transmit wrote]
      rfl
  | lost wrote gone =>
      rw [execute, ReportConnection.write_of_transmit wrote]
      exact if_pos gone
  | refused wrote present =>
      rw [execute, ReportConnection.write_of_transmit wrote]
      exact if_neg (Bool.eq_false_iff.mp present)
  | untimed wrote noTime =>
      rw [execute_of_transmitted wrote, readsAllowed, noTime]
      rfl
  | unreadable wrote timed past =>
      rw [execute_of_transmitted wrote, readsAllowed, timed]
      exact awaitReply_past_longest request _ _ past
  | decided wrote timed fits waiting undecided decides =>
      rw [execute_of_transmitted wrote, readsAllowed, timed]
      exact awaitReply_of_decided fits (isOpen_of_transmitted wrote) waiting undecided decides
  | undecided wrote timed fits undecided =>
      rw [execute_of_transmitted wrote, readsAllowed, timed]
      exact awaitReply_of_undecided fits (isOpen_of_transmitted wrote) undecided

/-- One of the events is the first that decides, or all of them are passed over. -/
theorem first_verdict_or_none
    (request : ReportRequest)
    (layout : ReportLayout)
    (commandId : UInt8)
    (events : List ReportEvent) :
    (∃ skipped event rest outcome, events = skipped ++ event :: rest ∧
      (∀ other ∈ skipped, request.verdict? layout commandId other = none) ∧
      request.verdict? layout commandId event = some outcome) ∨
    ∀ other ∈ events, request.verdict? layout commandId other = none := by
  induction events with
  | nil => exact .inr nofun
  | cons event events inductionHypothesis =>
      cases decides : request.verdict? layout commandId event with
      | some outcome => exact .inl ⟨[], event, events, outcome, rfl, nofun, decides⟩
      | none =>
          obtain ⟨skipped, first, rest, outcome, rfl, undecided, verdict⟩ | undecided :=
            inductionHypothesis
          · exact .inl ⟨event :: skipped, first, rest, outcome, rfl,
              List.forall_mem_cons.2 ⟨decides, undecided⟩, verdict⟩
          · exact .inr (List.forall_mem_cons.2 ⟨decides, undecided⟩)

/-- Every request ends. -/
theorem exists_ends (request : ReportRequest) (connection : ReportConnection) :
    ∃ outcome later, request.Ends connection outcome later := by
  obtain ⟨port, wrote⟩ | ⟨cause, port, wrote⟩ | ⟨port, wrote, -⟩ :=
    request.transmit_cases connection
  · exact ⟨_, _, .unframed wrote⟩
  · cases gone : cause.isDisconnect with
    | true => exact ⟨_, _, .lost wrote gone⟩
    | false => exact ⟨_, _, .refused wrote gone⟩
  · cases timed : request.readTimeout.positive with
    | false => exact ⟨_, _, .untimed wrote timed⟩
    | true =>
        by_cases fits : connection.layout.inputLength ≤ Buffer.longest
        · obtain ⟨skipped, event, rest, outcome, waiting, undecided, decides⟩ | undecided :=
            request.first_verdict_or_none connection.layout connection.nextId port.incoming
          · exact ⟨_, _, .decided wrote timed fits waiting undecided decides⟩
          · exact ⟨_, _, .undecided wrote timed fits undecided⟩
        · exact ⟨_, _, .unreadable wrote timed (Nat.lt_of_not_le fits)⟩

/-- Behind its write a request adds only reads to the journal. -/
theorem Ends.journal_eq (ends : request.Ends connection outcome later) :
    ∃ reads, later.port.journal =
      List.replicate reads (.read request.wait.wholeMillis) ++
        (request.transmit connection).2.journal := by
  cases ends with
  | unframed wrote => exact ⟨0, by rw [wrote]; rfl⟩
  | lost wrote gone => exact ⟨0, by rw [wrote]; rfl⟩
  | refused wrote present => exact ⟨0, by rw [wrote]; rfl⟩
  | untimed wrote noTime => exact ⟨0, by rw [wrote]; rfl⟩
  | unreadable wrote timed past => exact ⟨0, by rw [wrote]; rfl⟩
  | decided wrote timed fits waiting undecided decides => exact ⟨_, by rw [wrote]; rfl⟩
  | undecided wrote timed fits undecided => exact ⟨_, by rw [wrote]; rfl⟩

/-- With buffers for the reports in both directions a request does not break down. -/
theorem Ends.ne_crash
    (ends : request.Ends connection outcome later)
    (holds : 2 ≤ connection.layout.outputLength)
    (outputFits : connection.layout.outputLength ≤ Buffer.longest)
    (inputFits : connection.layout.inputLength ≤ Buffer.longest) :
    outcome ≠ .error .crash := by
  cases ends with
  | unframed wrote =>
      have written := ReportConnection.transmit_eq_write holds outputFits request.command.bytes
      rw [transmit, written] at wrote
      obtain ⟨cause, later, failed⟩ | ⟨later, went, -⟩ :=
        ReportPort.write_cases (connection.layout.frame request.command.bytes connection.nextId)
          connection.port
      · cases wrote.symm.trans failed
      · cases wrote.symm.trans went
  | lost wrote gone => simp
  | refused wrote present => simp
  | untimed wrote noTime => simp
  | unreadable wrote timed past => omega
  | decided wrote timed fits waiting undecided decides =>
      rintro rfl
      exact request.verdict?_ne_crash _ _ _ decides
  | undecided wrote timed fits undecided => simp

end Outcomes

end ReportRequest

end DeviceLink
