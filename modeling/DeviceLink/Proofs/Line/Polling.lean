import DeviceLink.Proofs.Line.Operations

/-!
# Polls and the events they meet

What a poll yields is a function of the events that wait. A byte, an end or a
failure is taken as it comes. Gaps and reads that time out are passed over by
a reader with time left and end the poll of a reader without. A reader with
time left gives up only a line on which nothing waits any more.
-/

namespace DeviceLink

namespace LineEvent

/-- What a poll gets from an event: a byte, the end or a failure; absent for mere delays. -/
def met : LineEvent → Option (Except LinkError Poll)
  | byte value => some (.ok (.byte value))
  | gap => none
  | silence => none
  | hangup => some (.ok .ended)
  | readFailure .endOfStream => some (.ok .ended)
  | readFailure (.timeout _) => none
  | readFailure cause => some (.error cause)
  | pollFailure cause => some (.error cause)

/-- The operations of the poll that meets an event. -/
def operations : LineEvent → List LineOperation
  | byte value => [.asked (.ok true), .read (.ok value)]
  | gap => [.asked (.ok false)]
  | silence => [.asked (.ok true), .read (.error (.timeout "serial read: no data"))]
  | hangup => [.asked (.ok true), .read (.error .endOfStream)]
  | readFailure cause => [.asked (.ok true), .read (.error cause)]
  | pollFailure cause => [.asked (.error cause)]

@[simp] theorem bytesWritten_operations (event : LineEvent) :
    Line.bytesWritten event.operations = [] := by
  cases event with
  | _ => rfl

end LineEvent

namespace Line

/-- What a poll yields, and the events that stay. A patient reader passes over delays. -/
def meet (patient ends : Bool) : List LineEvent → Except LinkError Poll × List LineEvent
  | [] => (.ok (if ends then .ended else .expired), [])
  | event :: rest =>
      match event.met with
      | some outcome => (outcome, rest)
      | none => if patient then meet patient ends rest else (.ok .expired, rest)

/-- The byte of a poll, if it got one. -/
def arrival : Except LinkError Poll → List UInt8
  | .ok (.byte value) => [value]
  | _ => []

/-- An exchange that read the given bytes, left the events `unread` and wrote nothing. -/
def Reads
    (line : Line)
    (bytes : List UInt8)
    (unread : List LineEvent)
    (later : Line) : Prop :=
  ∃ operations, later = line.after operations unread ∧
    bytesRead operations = bytes ∧ bytesWritten operations = []

namespace Reads

variable {line between later : Line} {bytes more : List UInt8}
  {unread fewer : List LineEvent}

theorem refl (line : Line) : line.Reads [] line.incoming line :=
  ⟨[], rfl, rfl, rfl⟩

theorem trans
    (first : line.Reads bytes unread between)
    (second : between.Reads more fewer later) :
    line.Reads (bytes ++ more) fewer later := by
  obtain ⟨early, rfl, rfl, earlyWrites⟩ := first
  obtain ⟨late, rfl, rfl, lateWrites⟩ := second
  refine ⟨early ++ late, ?_, ?_, ?_⟩
  · rw [after_after]
  · rw [bytesRead_append]
  · rw [bytesWritten_append, earlyWrites, lateWrites]
    rfl

theorem incoming_eq (reads : line.Reads bytes unread later) : later.incoming = unread := by
  obtain ⟨operations, rfl, -, -⟩ := reads
  rfl

theorem endsWhenDrained_eq (reads : line.Reads bytes unread later) :
    later.endsWhenDrained = line.endsWhenDrained := by
  obtain ⟨operations, rfl, -, -⟩ := reads
  rfl

theorem device_eq (reads : line.Reads bytes unread later) : later.device = line.device := by
  obtain ⟨operations, rfl, -, -⟩ := reads
  rfl

theorem bytesRead_since (reads : line.Reads bytes unread later) :
    bytesRead (line.since later) = bytes := by
  obtain ⟨operations, rfl, read, -⟩ := reads
  rw [since_after, read]

theorem bytesWritten_since (reads : line.Reads bytes unread later) :
    bytesWritten (line.since later) = [] := by
  obtain ⟨operations, rfl, -, written⟩ := reads
  rw [since_after, written]

theorem suffix_journal (reads : line.Reads bytes unread later) :
    line.journal <:+ later.journal := by
  obtain ⟨operations, rfl, -, -⟩ := reads
  exact suffix_journal_after operations unread line

end Reads

/-! ## One poll -/

/-- A poll on a line that has ended. -/
theorem pollWithin_ended
    {line : Line}
    (drained : line.incoming = [])
    (ends : line.endsWhenDrained = true)
    (polls : Nat) :
    ∃ later, pollWithin (polls + 1) line = (.ok .ended, later) ∧ line.Reads [] [] later := by
  obtain ⟨incoming, endsWhenDrained, device, journal⟩ := line
  subst drained ends
  exact ⟨_, rfl, [.asked (.ok true), .read (.error .endOfStream)], rfl, rfl, rfl⟩

/-- The last poll on a line on which nothing waits. -/
theorem pollWithin_drained
    {line : Line}
    (drained : line.incoming = [])
    (lasts : line.endsWhenDrained = false) :
    ∃ later, pollWithin 1 line = (.ok .expired, later) ∧ line.Reads [] [] later := by
  obtain ⟨incoming, endsWhenDrained, device, journal⟩ := line
  subst drained lasts
  exact ⟨_, rfl, [.asked (.ok false)], rfl, rfl, rfl⟩

/-- A poll that meets an event takes what the event holds, and polls on after a delay. -/
theorem pollWithin_event
    {line : Line}
    {event : LineEvent}
    {rest : List LineEvent}
    (waiting : line.incoming = event :: rest)
    (polls : Nat) :
    pollWithin (polls + 1) line =
      match event.met with
      | some outcome => (outcomeOf outcome, line.after event.operations rest)
      | none => pollWithin polls (line.after event.operations rest) := by
  obtain ⟨incoming, ends, device, journal⟩ := line
  subst waiting
  cases event with
  | readFailure cause =>
      cases cause with
      | _ => rfl
  | _ => rfl

/-- The poll that meets an event reads the byte that the event holds. -/
theorem reads_event
    (line : Line)
    (event : LineEvent)
    (rest : List LineEvent) :
    line.Reads (event.met.elim [] arrival) rest (line.after event.operations rest) := by
  refine ⟨event.operations, rfl, ?_, event.bytesWritten_operations⟩
  cases event with
  | readFailure cause =>
      cases cause with
      | _ => rfl
  | _ => rfl

/-- Polls with time for every event, or a single poll, yield what the reader meets. -/
theorem pollWithin_meet
    (patient : Bool)
    (line : Line)
    {polls : Nat}
    (allowed : polls = if patient then line.incoming.length + 1 else 1) :
    ∃ later,
      pollWithin polls line =
        (outcomeOf (meet patient line.endsWhenDrained line.incoming).1, later) ∧
      line.Reads (arrival (meet patient line.endsWhenDrained line.incoming).1)
        (meet patient line.endsWhenDrained line.incoming).2 later := by
  -- Each event costs one poll, so a patient reader has one left when nothing waits any more.
  induction polls generalizing line with
  | zero =>
      split at allowed
      · omega
      · omega
  | succ polls inductionHypothesis =>
      cases waiting : line.incoming with
      | nil =>
          cases ends : line.endsWhenDrained with
          | true => exact pollWithin_ended waiting ends polls
          | false =>
              have last : polls = 0 := by
                rw [waiting, List.length_nil, ite_self] at allowed
                omega
              subst last
              exact pollWithin_drained waiting ends
      | cons event rest =>
          have met := line.reads_event event rest
          rw [pollWithin_event waiting]
          cases taken : event.met with
          | some outcome =>
              rw [taken] at met
              simp only [meet, taken]
              exact ⟨_, rfl, met⟩
          | none =>
              rw [taken] at met
              cases patient with
              | true =>
                  have fewer : polls = rest.length + 1 := by
                    rw [waiting, List.length_cons, if_pos rfl] at allowed
                    omega
                  obtain ⟨later, polled, reads⟩ :=
                    inductionHypothesis (line.after event.operations rest) fewer
                  simp only [meet, taken, if_true]
                  exact ⟨later, polled, met.trans reads⟩
              | false =>
                  have last : polls = 0 := by
                    rw [if_neg Bool.false_ne_true] at allowed
                    omega
                  subst last
                  simp only [meet, taken]
                  exact ⟨_, rfl, met⟩

/-- A poll yields what its reader meets: with a positive budget the reader is patient. -/
theorem poll_meet (budget : Duration) (line : Line) :
    ∃ later,
      poll budget line =
        (outcomeOf (meet budget.positive line.endsWhenDrained line.incoming).1, later) ∧
      line.Reads (arrival (meet budget.positive line.endsWhenDrained line.incoming).1)
        (meet budget.positive line.endsWhenDrained line.incoming).2 later :=
  pollWithin_meet budget.positive line rfl

end Line

end DeviceLink
