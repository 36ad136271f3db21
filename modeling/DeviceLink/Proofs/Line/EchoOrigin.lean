import DeviceLink.Proofs.Line.Pattern
import Mathlib.Control.Monad.Basic

/-!
# Where an echo comes from

A comparison takes events from the front of the line, so the bytes of an echo
are those of the events it took. When a command is written, the events that
the drain before has left still wait, and the reply stands behind them. Bytes
that were left pass for the start of an echo. Nothing is drained before the
first write, and a later drain stops at the first pause that it meets.
-/

namespace DeviceLink

namespace LineEvent

/-- The byte of an event, if it has one. -/
def value? : LineEvent → Option UInt8
  | byte value => some value
  | _ => none

/-- The bytes among events, in order. -/
def values (events : List LineEvent) : List UInt8 :=
  events.filterMap value?

/-- An event that a drain takes for the end of what waits. -/
def pauses : LineEvent → Bool
  | gap => true
  | silence => true
  | hangup => true
  | readFailure .endOfStream => true
  | readFailure (.timeout _) => true
  | _ => false

@[simp] theorem values_append (first second : List LineEvent) :
    values (first ++ second) = values first ++ values second :=
  List.filterMap_append

/-- An event has the byte that a poll gets from it. -/
theorem values_singleton (event : LineEvent) :
    values [event] = event.met.elim [] Line.arrival := by
  cases event with
  | readFailure cause =>
      cases cause with
      | _ => rfl
  | _ => rfl

end LineEvent

namespace Line

/-! ## Events that a reader takes -/

section Taken

variable {patient ends : Bool} {events unread : List LineEvent} {bytes : List UInt8}
  {outcome : Except LinkError Poll}

/-- A poll takes events from the front, and among them is the byte that it meets. -/
theorem taken_of_meet (met : meet patient ends events = (outcome, unread)) :
    ∃ taken, events = taken ++ unread ∧ LineEvent.values taken = arrival outcome := by
  induction events with
  | nil =>
      rw [meet] at met
      cases met
      refine ⟨[], rfl, ?_⟩
      split
      · rfl
      · rfl
  | cons event rest inductionHypothesis =>
      have single := event.values_singleton
      rw [meet] at met
      cases decided : event.met with
      | some outcome =>
          rw [decided] at met single
          cases met
          exact ⟨[event], rfl, single⟩
      | none =>
          rw [decided] at met single
          cases patient with
          | true =>
              obtain ⟨taken, rfl, values⟩ := inductionHypothesis met
              refine ⟨event :: taken, rfl, ?_⟩
              rw [← values, ← List.singleton_append, LineEvent.values_append, single]
              rfl
          | false =>
              cases met
              exact ⟨[event], rfl, single⟩

/-- The bytes that a line delivers are those of the events that are taken. -/
theorem Delivers.taken (delivered : Delivers patient ends events bytes unread) :
    ∃ taken, events = taken ++ unread ∧ LineEvent.values taken = bytes := by
  induction delivered with
  | nothing events => exact ⟨[], rfl, rfl⟩
  | byte met _ inductionHypothesis =>
      obtain ⟨front, rfl, first⟩ := taken_of_meet met
      obtain ⟨behind, rfl, rest⟩ := inductionHypothesis
      refine ⟨front ++ behind, (List.append_assoc _ _ _).symm, ?_⟩
      rw [LineEvent.values_append, first, rest]
      rfl

end Taken

/-- A comparison that matches was delivered what it compared. -/
theorem delivers_of_matched
    {budget : Duration}
    {command : List UInt8}
    {line later : Line}
    (matched : matchBytes budget command line = (.ok true, later)) :
    Delivers budget.positive line.endsWhenDrained line.incoming command later.incoming := by
  obtain ⟨unread, delivered⟩ | ⟨unread, miss⟩ |
      ⟨front, next, remaining, between, unread, cause, rfl, delivered, met⟩ :=
    Delivers.or_miss_or_failure budget.positive line.endsWhenDrained command line.incoming
  · obtain ⟨last, compared, reads⟩ := matchBytes_delivered delivered []
    rw [List.append_nil, matched] at compared
    cases compared
    rw [reads.incoming_eq]
    exact delivered
  · obtain ⟨bytes, last, compared, -⟩ := matchBytes_of_miss miss
    rw [matched] at compared
    cases compared
  · obtain ⟨last, compared, -⟩ := matchBytes_of_meet delivered met nofun
    rw [matched] at compared
    cases compared

/-! ## Events that a drain leaves -/

section Drains

variable {line later : Line} {settings : LineSettings} {discarded count total : Nat}

/-- Discarding goes on behind a byte. -/
theorem discardMore_of_byte
    {value : UInt8}
    {rest : List LineEvent}
    (waiting : line.incoming = .byte value :: rest) :
    discardMore discarded (count + 1) line =
      discardMore (discarded + 1) count
        (line.after [.asked (.ok true), .read (.ok value)] rest) := by
  obtain ⟨incoming, ends, device, journal⟩ := line
  subst waiting
  rfl

/-- Discarding stops at the first event that is no byte. If it does not fail there, the event is
a pause, and what stands behind it is left. -/
theorem discardMore_of_stop
    {event : LineEvent}
    {rest : List LineEvent}
    (waiting : line.incoming = event :: rest)
    (noByte : event.value? = none)
    (ran : discardMore discarded (count + 1) line = (.ok total, later)) :
    event.pauses = true ∧ later.incoming = rest := by
  obtain ⟨incoming, ends, device, journal⟩ := line
  subst waiting
  cases event with
  | byte value => cases noByte
  | gap =>
      cases ran
      exact ⟨rfl, rfl⟩
  | silence =>
      cases ran
      exact ⟨rfl, rfl⟩
  | hangup =>
      cases ran
      exact ⟨rfl, rfl⟩
  | pollFailure cause => cases ran
  | readFailure cause =>
      cases cause with
      | endOfStream =>
          cases ran
          exact ⟨rfl, rfl⟩
      | timeout what =>
          cases ran
          exact ⟨rfl, rfl⟩
      | _ => cases ran

/-- Discarding on a line on which nothing waits leaves nothing. -/
theorem discardMore_of_nil
    (waiting : line.incoming = [])
    (ran : discardMore discarded (count + 1) line = (.ok total, later)) :
    later.incoming = [] := by
  obtain ⟨incoming, ends, device, journal⟩ := line
  subst waiting
  cases ends with
  | true =>
      cases ran
      rfl
  | false =>
      cases ran
      rfl

/-- Discarding takes all bytes up to the first pause, and the pause. -/
theorem discardMore_leaves
    (ran : discardMore discarded count line = (.ok total, later))
    (enough : line.incoming.length < count) :
    ∃ bytes, (line.incoming = LineEvent.bytes bytes ∧ later.incoming = []) ∨
      ∃ pause, pause.pauses = true ∧
        line.incoming = LineEvent.bytes bytes ++ pause :: later.incoming := by
  induction count generalizing line discarded with
  | zero => exact absurd enough (Nat.not_lt_zero _)
  | succ count inductionHypothesis =>
      cases waiting : line.incoming with
      | nil => exact ⟨[], .inl ⟨rfl, discardMore_of_nil waiting ran⟩⟩
      | cons event rest =>
          cases content : event.value? with
          | none =>
              obtain ⟨pause, left⟩ := discardMore_of_stop waiting content ran
              exact ⟨[], .inr ⟨event, pause, by rw [left]; rfl⟩⟩
          | some value =>
              obtain rfl : event = .byte value := by
                cases event with
                | byte other =>
                    cases content
                    rfl
                | _ => cases content
              rw [discardMore_of_byte waiting] at ran
              rw [waiting, List.length_cons] at enough
              have fewer : rest.length < count := by omega
              obtain ⟨bytes, ⟨all, none⟩ | ⟨pause, isPause, front⟩⟩ :=
                inductionHypothesis ran fewer
              · exact ⟨value :: bytes, .inl ⟨congrArg (LineEvent.byte value :: ·) all, none⟩⟩
              · refine ⟨value :: bytes, .inr ⟨pause, isPause, ?_⟩⟩
                exact congrArg (LineEvent.byte value :: ·) front

/-- A drain with time takes all bytes up to the first pause, and the pause. -/
theorem drain_leaves
    (timed : settings.drainTimeout.positive = true)
    (ran : drain settings line = (.ok total, later)) :
    ∃ bytes, (line.incoming = LineEvent.bytes bytes ∧ later.incoming = []) ∨
      ∃ pause, pause.pauses = true ∧
        line.incoming = LineEvent.bytes bytes ++ pause :: later.incoming := by
  rw [drain, if_pos timed] at ran
  exact discardMore_leaves ran (Nat.lt_succ_self _)

end Drains

/-! ## Where an attempt starts -/

/-- The attempt of this number starts on the line `start`: those before it missed, and each of
them was followed by a drain. -/
inductive StartsAttempt (settings : LineSettings) (command : List UInt8) (line : Line) :
    Nat → Line → Prop
  | first : StartsAttempt settings command line 0 line
  | next
      {number count : Nat}
      {start written failed drained : Line}
      (earlier : StartsAttempt settings command line number start)
      (wrote : write command start = (.ok (), written))
      (missed : matchBytes settings.readTimeout command written = (.ok false, failed))
      (ran : drain settings failed = (.ok count, drained)) :
      StartsAttempt settings command line (number + 1) drained

/-- Why events can still wait when an attempt starts: nothing is drained before the first one,
and the drain before a later one had no time, or stopped at a pause in front of them. -/
inductive LeftOver (settings : LineSettings) (command : List UInt8) (line : Line) :
    Nat → Line → Prop
  | waiting : LeftOver settings command line 0 line
  | untimed
      {number : Nat}
      {start : Line}
      (noTime : settings.drainTimeout.positive = false) :
      LeftOver settings command line (number + 1) start
  | paused
      {number count : Nat}
      {start written failed drained : Line}
      {bytes : List UInt8}
      {pause : LineEvent}
      (earlier : StartsAttempt settings command line number start)
      (wrote : write command start = (.ok (), written))
      (missed : matchBytes settings.readTimeout command written = (.ok false, failed))
      (ran : drain settings failed = (.ok count, drained))
      (isPause : pause.pauses = true)
      (waited : failed.incoming = LineEvent.bytes bytes ++ pause :: drained.incoming) :
      LeftOver settings command line (number + 1) drained

namespace StartsAttempt

variable {settings : LineSettings} {command : List UInt8} {line start later : Line}
  {number attempts : Nat}

/-- The attempts before one made one write each, of the command. -/
theorem bytesWritten_eq (starts : StartsAttempt settings command line number start) :
    line.journal <:+ start.journal ∧
      bytesWritten (line.since start) = List.replicate number command := by
  induction starts with
  | first =>
      rw [since_self]
      exact ⟨List.suffix_refl _, rfl⟩
  | @next number count start written failed drained earlier wrote missed ran
      inductionHypothesis =>
      obtain ⟨grown, before⟩ := inductionHypothesis
      obtain ⟨outcome, bytes, unread, compared, same, reads, -⟩ :=
        matchBytes_comparison settings.readTimeout command written
      rw [missed] at same
      cases same
      obtain ⟨skipped, left, readsOn⟩ := ReadsOnly.drain settings failed
      rw [ran] at readsOn
      obtain ⟨grownAgain, alone⟩ := bytesWritten_since_of_reads wrote (reads.trans readsOn)
      refine ⟨grown.trans grownAgain, ?_⟩
      rw [since_append grown grownAgain, bytesWritten_append, before, alone,
        List.replicate_succ']

/-- If anything waits when an attempt starts, there is a reason for it. -/
theorem leftOver
    (starts : StartsAttempt settings command line number start)
    (waiting : start.incoming ≠ []) :
    LeftOver settings command line number start := by
  cases starts with
  | first => exact .waiting
  | next earlier wrote missed ran =>
      cases timed : settings.drainTimeout.positive with
      | false => exact .untimed timed
      | true =>
          obtain ⟨bytes, ⟨-, none⟩ | ⟨pause, isPause, front⟩⟩ := drain_leaves timed ran
          · exact absurd none waiting
          · exact .paused earlier wrote missed ran isPause front

/-- Up to a comparison that matches, each attempt made one write, of the command. -/
theorem bytesWritten_of_matched
    {written : Line}
    (starts : StartsAttempt settings command line number start)
    (wrote : write command start = (.ok (), written))
    (matched : matchBytes settings.readTimeout command written = (.ok true, later)) :
    bytesWritten (line.since later) = List.replicate (number + 1) command := by
  obtain ⟨outcome, bytes, unread, compared, same, reads, -⟩ :=
    matchBytes_comparison settings.readTimeout command written
  rw [matched] at same
  cases same
  obtain ⟨grown, before⟩ := starts.bytesWritten_eq
  obtain ⟨grownAgain, alone⟩ := bytesWritten_since_of_reads wrote reads
  rw [since_append grown grownAgain, bytesWritten_append, before, alone, List.replicate_succ']

/-- A verified write ends with the comparison of an attempt that matched. -/
theorem matched_of_verified
    (starts : StartsAttempt settings command line number start)
    (verified : writeUntilEchoed settings command attempts start = (.ok true, later)) :
    ∃ last final written, StartsAttempt settings command line last final ∧
      write command final = (.ok (), written) ∧
      matchBytes settings.readTimeout command written = (.ok true, later) := by
  induction attempts generalizing number start with
  | zero => cases verified
  | succ attempts inductionHypothesis =>
      obtain ⟨done, written, wrote, rest⟩ := Exchange.exists_of_bind_ok verified
      obtain ⟨echoed, behind, compared, ends⟩ := Exchange.exists_of_bind_ok rest
      cases echoed with
      | true =>
          cases ends
          exact ⟨number, start, written, starts, wrote, compared⟩
      | false =>
          obtain ⟨count, drained, ran, goesOn⟩ := Exchange.exists_of_bind_ok ends
          exact inductionHypothesis (starts.next wrote compared ran) goesOn

end StartsAttempt

/-! ## The bytes of an echo -/

/-- The events taken from a line on which a reply stands behind others are events in front of the
reply, and then, when none of these is left, events of the reply. -/
theorem taken_split
    {taken unread before reply : List LineEvent}
    (front : before ++ reply = taken ++ unread) :
    ∃ old new, taken = old ++ new ∧ old <+: before ∧ new <+: reply ∧
      (new ≠ [] → old = before) := by
  obtain ⟨left, rfl, -⟩ | ⟨more, rfl, rfl⟩ := List.append_eq_append_iff.1 front.symm
  · refine ⟨taken, [], (List.append_nil _).symm, ?_, List.nil_prefix, ?_⟩
    · exact List.prefix_append _ _
    · exact fun filled => absurd rfl filled
  · exact ⟨before, more, rfl, List.prefix_refl _, List.prefix_append _ _, fun _ => rfl⟩

end Line

end DeviceLink
