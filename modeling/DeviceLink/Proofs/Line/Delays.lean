import DeviceLink.Proofs.Line.EchoOrigin

/-!
# Delays between events

A reader with time left passes over delays. Two lines that are the same but
for delays are therefore the same to every exchange whose polls have time: it
takes other numbers of polls on them, and it ends the same way, writes the same
bytes and leaves lines that are the same but for delays.
-/

namespace DeviceLink

/-- Events that count as delays: some of those that a poll passes over. -/
structure DelayKind where
  /-- The events that count. -/
  holds : LineEvent → Bool
  /-- No event that counts carries anything for its reader. -/
  passed : ∀ event, holds event = true → event.met = none

namespace DelayKind

/-- Gaps, and reads for which no data is there although it was announced. -/
def quiet : DelayKind where
  holds := LineEvent.isDelay
  passed event delays := by
    cases event with
    | gap => rfl
    | silence => rfl
    | _ => cases delays

/-- Gaps, and all reads that time out. -/
def all : DelayKind where
  holds event := event.met.isNone
  passed _ delays := Option.isNone_iff_eq_none.1 delays

theorem holds_all (event : LineEvent) :
    all.holds event = true ↔
      event = .gap ∨ event = .silence ∨ ∃ what, event = .readFailure (.timeout what) := by
  cases event with
  | readFailure cause =>
      cases cause with
      | _ => simp [all, LineEvent.met]
  | _ => simp [all, LineEvent.met]

variable (kind : DelayKind)

/-- The events without the delays among them. -/
def keep (events : List LineEvent) : List LineEvent :=
  events.filter fun event => !kind.holds event

@[simp] theorem keep_append (first second : List LineEvent) :
    kind.keep (first ++ second) = kind.keep first ++ kind.keep second :=
  List.filter_append first second

@[simp] theorem keep_bytes (values : List UInt8) :
    kind.keep (LineEvent.bytes values) = LineEvent.bytes values := by
  apply List.filter_eq_self.2
  intro event among
  obtain ⟨value, -, rfl⟩ := List.mem_map.1 among
  cases delays : kind.holds (.byte value) with
  | false => rfl
  | true => cases kind.passed _ delays

/-- A patient reader meets the same without the delays, and leaves the same but for delays. -/
theorem meet_keep (ends : Bool) (events : List LineEvent) :
    Line.meet true ends (kind.keep events) =
      ((Line.meet true ends events).1, kind.keep (Line.meet true ends events).2) := by
  induction events with
  | nil => rfl
  | cons event rest inductionHypothesis =>
      cases delays : kind.holds event with
      | true =>
          have gone : kind.keep (event :: rest) = kind.keep rest :=
            List.filter_cons_of_neg (by simp [delays])
          rw [gone, inductionHypothesis, Line.meet, kind.passed event delays]
          rfl
      | false =>
          have stays : kind.keep (event :: rest) = event :: kind.keep rest :=
            List.filter_cons_of_pos (by simp [delays])
          rw [stays, Line.meet, Line.meet]
          cases event.met with
          | some outcome => rfl
          | none => exact inductionHypothesis

end DelayKind

/-! ## Devices and lines that are the same but for delays -/

namespace LineDevice

/-- The answers of a device to one write after another. -/
def answers : LineDevice → List (List UInt8) → List (Except LinkError (List LineEvent))
  | _, [] => []
  | device, written :: writes =>
      (device.answer written).1 :: (device.answer written).2.answers writes

end LineDevice

namespace DelayKind

variable (kind : DelayKind)

/-- Devices whose answers to any writes are the same but for delays. -/
def AlikeDevices (first second : LineDevice) : Prop :=
  ∀ writes,
    (first.answers writes).map (Except.map kind.keep) =
      (second.answers writes).map (Except.map kind.keep)

/-- Lines that are the same but for delays. -/
structure Alike (first second : Line) : Prop where
  /-- The events are the same but for delays. -/
  incoming : kind.keep first.incoming = kind.keep second.incoming
  /-- Both streams end where their events end, or neither does. -/
  endsWhenDrained : first.endsWhenDrained = second.endsWhenDrained
  /-- The devices answer alike. -/
  device : kind.AlikeDevices first.device second.device

/-- An exchange that cannot tell two lines from each other: it has the same outcome and makes the
same writes, and the lines that it leaves are the same but for delays. -/
structure EndsAlike {α : Type} (exchange : Exchange Line α) (first second : Line) : Prop where
  /-- The outcomes are the same. -/
  outcome : (exchange first).1 = (exchange second).1
  /-- Both journals are continued. -/
  grown : first.journal <:+ (exchange first).2.journal ∧
    second.journal <:+ (exchange second).2.journal
  /-- The bytes written are the same. -/
  writes :
    Line.bytesWritten (first.since (exchange first).2) =
      Line.bytesWritten (second.since (exchange second).2)
  /-- The lines are left the same but for delays. -/
  later : kind.Alike (exchange first).2 (exchange second).2

/-- An exchange that cannot tell any lines from each other that are the same but for delays. -/
def Steady {α : Type} (exchange : Exchange Line α) : Prop :=
  ∀ first second, kind.Alike first second → kind.EndsAlike exchange first second

namespace AlikeDevices

variable {kind : DelayKind} {first second : LineDevice}

/-- The answers to a write are the same but for delays, and so are the devices after it. -/
theorem answer (alike : kind.AlikeDevices first second) (written : List UInt8) :
    (first.answer written).1.map kind.keep = (second.answer written).1.map kind.keep ∧
      kind.AlikeDevices (first.answer written).2 (second.answer written).2 := by
  refine ⟨?_, ?_⟩
  · exact (List.cons.inj (alike [written])).1
  · intro writes
    exact (List.cons.inj (alike (written :: writes))).2

/-- Devices that follow replies are alike if their replies are the same but for delays. -/
theorem of_replies
    {replies others : List LineReply}
    {otherwise other : LineReply}
    (same : ∀ written,
      replies.map (fun reply => (reply.events written).map kind.keep) =
        others.map fun reply => (reply.events written).map kind.keep)
    (sameOtherwise : ∀ written,
      (otherwise.events written).map kind.keep = (other.events written).map kind.keep) :
    kind.AlikeDevices (.replying replies otherwise) (.replying others other) := by
  intro writes
  induction writes generalizing replies others with
  | nil => rfl
  | cons written writes inductionHypothesis =>
      cases replies with
      | nil =>
          cases others with
          | nil => exact List.cons_eq_cons.2 ⟨sameOtherwise written, inductionHypothesis same⟩
          | cons other others => cases same written
      | cons reply replies =>
          cases others with
          | nil => cases same written
          | cons other others =>
              have behind := inductionHypothesis fun written => (List.cons.inj (same written)).2
              exact List.cons_eq_cons.2 ⟨(List.cons.inj (same written)).1, behind⟩

end AlikeDevices

namespace EndsAlike

variable {kind : DelayKind} {α β : Type} {exchange : Exchange Line α} {first second : Line}

/-- An exchange that leaves the lines as they are. -/
theorem of_unchanged
    {outcome : Except Fault α}
    (alike : kind.Alike first second)
    (unchanged : exchange first = (outcome, first))
    (unchangedAlso : exchange second = (outcome, second)) :
    kind.EndsAlike exchange first second where
  outcome := by rw [unchanged, unchangedAlso]
  grown := by
    rw [unchanged, unchangedAlso]
    exact ⟨List.suffix_refl _, List.suffix_refl _⟩
  writes := by rw [unchanged, unchangedAlso, Line.since_self, Line.since_self]
  later := by
    rw [unchanged, unchangedAlso]
    exact alike

/-- An exchange that only reads, and leaves the same events but for delays. -/
theorem of_reads
    {outcome : Except Fault α}
    {bytes bytesAlso : List UInt8}
    {unread unreadAlso : List LineEvent}
    {later laterAlso : Line}
    (alike : kind.Alike first second)
    (ran : exchange first = (outcome, later))
    (ranAlso : exchange second = (outcome, laterAlso))
    (reads : first.Reads bytes unread later)
    (readsAlso : second.Reads bytesAlso unreadAlso laterAlso)
    (left : kind.keep unread = kind.keep unreadAlso) :
    kind.EndsAlike exchange first second where
  outcome := by rw [ran, ranAlso]
  grown := by
    rw [ran, ranAlso]
    exact ⟨reads.suffix_journal, readsAlso.suffix_journal⟩
  writes := by rw [ran, ranAlso, reads.bytesWritten_since, readsAlso.bytesWritten_since]
  later := by
    rw [ran, ranAlso]
    refine ⟨?_, ?_, ?_⟩
    · rw [reads.incoming_eq, readsAlso.incoming_eq, left]
    · rw [reads.endsWhenDrained_eq, readsAlso.endsWhenDrained_eq, alike.endsWhenDrained]
    · rw [reads.device_eq, readsAlso.device_eq]
      exact alike.device

/-- What ends alike does so too when it is the same on both lines. -/
theorem congr
    {same : Exchange Line α}
    (ends : kind.EndsAlike exchange first second)
    (onFirst : same first = exchange first)
    (onSecond : same second = exchange second) :
    kind.EndsAlike same first second where
  outcome := by rw [onFirst, onSecond, ends.outcome]
  grown := by
    rw [onFirst, onSecond]
    exact ends.grown
  writes := by rw [onFirst, onSecond, ends.writes]
  later := by
    rw [onFirst, onSecond]
    exact ends.later

/-- Two exchanges one after the other. -/
theorem bind
    {next : α → Exchange Line β}
    (ends : kind.EndsAlike exchange first second)
    (rest : ∀ value, (exchange first).1 = .ok value →
      kind.EndsAlike (next value) (exchange first).2 (exchange second).2) :
    kind.EndsAlike (exchange >>= next) first second := by
  cases ran : exchange first with
  | mk outcome between =>
      cases ranAlso : exchange second with
      | mk outcomeAlso betweenAlso =>
          obtain ⟨same, grown, writes, later⟩ := ends
          rw [ran, ranAlso] at same grown writes later rest
          cases same
          cases outcome with
          | error fault =>
              have stops := Exchange.bind_of_error ran next
              have stopsAlso := Exchange.bind_of_error ranAlso next
              refine ⟨?_, ?_, ?_, ?_⟩
              all_goals rw [stops, stopsAlso]
              · exact grown
              · exact writes
              · exact later
          | ok value =>
              have goesOn := Exchange.bind_of_ok ran next
              have goesOnAlso := Exchange.bind_of_ok ranAlso next
              obtain ⟨sameLast, grownLast, writesLast, last⟩ := rest value rfl
              refine ⟨?_, ?_, ?_, ?_⟩
              all_goals rw [goesOn, goesOnAlso]
              · exact sameLast
              · exact ⟨grown.1.trans grownLast.1, grown.2.trans grownLast.2⟩
              · rw [Line.since_append grown.1 grownLast.1, Line.since_append grown.2 grownLast.2,
                  Line.bytesWritten_append, Line.bytesWritten_append, writes, writesLast]
              · exact last

end EndsAlike

/-! ## Exchanges that pass over delays -/

namespace Steady

variable {kind : DelayKind} {α β : Type} {budget : Duration} {settings : LineSettings}

theorem pure (value : α) : kind.Steady (Pure.pure value) :=
  fun _ _ alike => .of_unchanged alike rfl rfl

theorem ofOption (value? : Option α) : kind.Steady (Exchange.ofOption value?) := by
  cases value? with
  | some value => exact .pure value
  | none => exact fun _ _ alike => .of_unchanged alike rfl rfl

theorem bind
    {exchange : Exchange Line α}
    {next : α → Exchange Line β}
    (steady : kind.Steady exchange)
    (rest : ∀ value, kind.Steady (next value)) :
    kind.Steady (exchange >>= next) := by
  intro first second alike
  have ends := steady first second alike
  exact ends.bind fun value _ => rest value _ _ ends.later

/-- The device answers a write the same way but for delays. -/
theorem write (bytes : List UInt8) : kind.Steady (Line.write bytes) := by
  intro first second alike
  obtain ⟨answers, devices⟩ := alike.device.answer bytes
  have grown := Line.suffix_journal_write bytes first
  have grownAlso := Line.suffix_journal_write bytes second
  have writes : Line.bytesWritten (first.since (Line.write bytes first).2) =
      Line.bytesWritten (second.since (Line.write bytes second).2) := by
    rw [Line.bytesWritten_since_write, Line.bytesWritten_since_write]
  suffices ends : (Line.write bytes first).1 = (Line.write bytes second).1 ∧
      kind.Alike (Line.write bytes first).2 (Line.write bytes second).2 from
    ⟨ends.1, ⟨grown, grownAlso⟩, writes, ends.2⟩
  cases answered : first.device.answer bytes with
  | mk reply device =>
      cases answeredAlso : second.device.answer bytes with
      | mk replyAlso deviceAlso =>
          rw [answered, answeredAlso] at answers devices
          cases reply with
          | error cause =>
              cases replyAlso with
              | ok events => cases answers
              | error causeAlso =>
                  cases answers
                  simp only [Line.write, answered, answeredAlso]
                  exact ⟨trivial, alike.incoming, alike.endsWhenDrained, devices⟩
          | ok events =>
              cases replyAlso with
              | error cause => cases answers
              | ok eventsAlso =>
                  have sameReply := Except.ok.inj answers
                  simp only [Line.write, answered, answeredAlso]
                  refine ⟨trivial, ?_, alike.endsWhenDrained, devices⟩
                  simp only [Line.append, Line.incoming_note, keep_append]
                  rw [alike.incoming, sameReply]

/-- A poll with time passes over the delays on either line. -/
theorem poll (timed : budget.positive = true) : kind.Steady (Line.poll budget) := by
  intro first second alike
  obtain ⟨later, polled, reads⟩ := Line.poll_meet budget first
  obtain ⟨laterAlso, polledAlso, readsAlso⟩ := Line.poll_meet budget second
  rw [timed] at polled reads polledAlso readsAlso
  have met := kind.meet_keep first.endsWhenDrained first.incoming
  rw [alike.incoming, alike.endsWhenDrained, kind.meet_keep, Prod.mk.injEq] at met
  obtain ⟨same, left⟩ := met
  rw [same, ← alike.endsWhenDrained] at polledAlso
  rw [← alike.endsWhenDrained] at left readsAlso
  exact .of_reads alike polled polledAlso reads readsAlso left.symm

/-- Comparing bytes takes one poll with time after another. -/
theorem matchBytes
    (timed : budget.positive = true)
    (command : List UInt8) :
    kind.Steady (Line.matchBytes budget command) := by
  induction command with
  | nil => exact .pure true
  | cons expected rest inductionHypothesis =>
      refine .bind (.poll timed) fun met => ?_
      cases met with
      | expired => exact .pure false
      | ended => exact .pure false
      | byte value =>
          by_cases same : value = expected
          · simp only [if_pos same]
            exact inductionHypothesis
          · simp only [if_neg same]
            exact .pure false

theorem readMore
    (timed : budget.positive = true)
    (taken : List UInt8)
    (count : Nat) :
    kind.Steady (Line.readMore budget taken count) := by
  induction count generalizing taken with
  | zero => exact .pure _
  | succ count inductionHypothesis =>
      refine .bind (.poll timed) fun met => ?_
      cases met with
      | expired => exact .pure _
      | ended => exact .pure _
      | byte value => exact inductionHypothesis (value :: taken)

theorem read
    (timed : settings.readTimeout.positive = true)
    (count : Nat) :
    kind.Steady (Line.read settings count) :=
  readMore timed [] count

theorem seekWithin
    (timed : budget.positive = true)
    (target : UInt8)
    (count : Nat) :
    kind.Steady (Line.seekWithin budget target count) := by
  induction count with
  | zero => exact .pure false
  | succ count inductionHypothesis =>
      refine .bind (.poll timed) fun met => ?_
      cases met with
      | expired => exact .pure false
      | ended => exact .pure false
      | byte value =>
          by_cases same : value = target
          · simp only [if_pos same]
            exact .pure true
          · simp only [if_neg same]
            exact inductionHypothesis

end Steady

end DelayKind

namespace Line

/-- A search with more tries than events has as many as it needs. -/
theorem seekWithin_enough
    {budget : Duration}
    {target : UInt8}
    {line : Line}
    {count other : Nat}
    (enough : line.incoming.length < count)
    (enoughAlso : line.incoming.length < other) :
    seekWithin budget target count line = seekWithin budget target other line := by
  -- Every poll that lets the search go on takes an event, so both numbers stay large enough.
  induction count generalizing line other with
  | zero => exact absurd enough (Nat.not_lt_zero _)
  | succ count inductionHypothesis =>
      cases other with
      | zero => exact absurd enoughAlso (Nat.not_lt_zero _)
      | succ other =>
          cases met : meet budget.positive line.endsWhenDrained line.incoming with
          | mk outcome unread =>
              obtain ⟨later, polled, reads⟩ := poll_of_meet met
              rw [seekWithin, seekWithin]
              cases outcome with
              | error cause =>
                  rw [Exchange.bind_of_error polled, Exchange.bind_of_error polled]
              | ok poll =>
                  rw [Exchange.bind_of_ok polled, Exchange.bind_of_ok polled]
                  cases poll with
                  | expired => rfl
                  | ended => rfl
                  | byte value =>
                      by_cases same : value = target
                      · simp only [if_pos same]
                      · simp only [if_neg same]
                        have fewer := length_of_meet_byte met
                        rw [← reads.incoming_eq] at fewer
                        exact inductionHypothesis (by omega) (by omega)

/-- One attempt of a verified write. -/
def tryWrite (settings : LineSettings) (command : List UInt8) : Exchange Line Bool := do
  write command
  matchBytes settings.readTimeout command

section Verified

variable {settings : LineSettings} {command : List UInt8} {line later : Line}

/-- A verified write that made a single write was echoed at its first attempt. -/
theorem tryWrite_of_verified
    (verified : writeVerified settings command line = (.ok true, later))
    (once : bytesWritten (line.since later) = [command]) :
    tryWrite settings command line = (.ok true, later) := by
  obtain ⟨last, start, written, starts, wrote, matched⟩ :=
    StartsAttempt.first.matched_of_verified verified
  have count := starts.bytesWritten_of_matched wrote matched
  rw [once] at count
  have first : last = 0 := by
    have lengths := congrArg List.length count
    rw [List.length_replicate, List.length_singleton] at lengths
    omega
  subst first
  cases starts with
  | first => exact (Exchange.bind_of_ok wrote _).trans matched

/-- A write whose first attempt is echoed is verified by it. -/
theorem writeVerified_of_tried (tried : tryWrite settings command line = (.ok true, later)) :
    writeVerified settings command line = (.ok true, later) := by
  obtain ⟨more, attempts⟩ := Nat.exists_eq_add_of_lt settings.attempts_pos
  rw [Nat.zero_add] at attempts
  obtain ⟨done, written, wrote, matched⟩ := Exchange.exists_of_bind_ok tried
  rw [writeVerified, attempts, writeUntilEchoed, Exchange.bind_of_ok wrote,
    Exchange.bind_of_ok matched]
  rfl

end Verified

end Line

namespace DelayKind

variable {kind : DelayKind} {settings : LineSettings}

namespace Steady

/-- Searching for a byte does not count the delays that it passes over. -/
theorem seek
    {budget : Duration}
    (timed : budget.positive = true)
    (target : UInt8) :
    kind.Steady (Line.seek budget target) := by
  intro first second alike
  -- The lines hold different numbers of events; one number of tries is enough on both.
  have ends := seekWithin timed target
    (max first.incoming.length second.incoming.length + 1) first second alike
  refine ends.congr ?_ ?_
  · exact Line.seekWithin_enough (Nat.lt_succ_self _) (by omega)
  · exact Line.seekWithin_enough (Nat.lt_succ_self _) (by omega)

theorem awaitPattern
    (timed : settings.readTimeout.positive = true)
    (drains : settings.drainTimeout.positive = true)
    (pattern : List UInt8) :
    kind.Steady (Line.awaitPattern settings pattern) := by
  cases pattern with
  | nil => exact .pure true
  | cons expected rest =>
      refine .bind (.seek drains expected) fun found => ?_
      cases found with
      | true => exact .matchBytes timed rest
      | false => exact .pure false

end Steady

/-- A write that is verified at its first attempt on one line is so on the other one. -/
theorem EndsAlike.writeVerified
    {command : List UInt8}
    {first second later : Line}
    (alike : kind.Alike first second)
    (timed : settings.readTimeout.positive = true)
    (verified : Line.writeVerified settings command first = (.ok true, later))
    (once : Line.bytesWritten (first.since later) = [command]) :
    kind.EndsAlike (Line.writeVerified settings command) first second := by
  have tried := Line.tryWrite_of_verified verified once
  have steady : kind.Steady (Line.tryWrite settings command) :=
    .bind (.write command) fun _ => .matchBytes timed command
  have ends := steady first second alike
  have same := ends.outcome
  cases triedAlso : Line.tryWrite settings command second with
  | mk outcome laterAlso =>
      rw [tried, triedAlso] at same
      cases same
      refine ends.congr ?_ ?_
      · rw [verified, tried]
      · rw [Line.writeVerified_of_tried triedAlso, triedAlso]

end DelayKind

end DeviceLink
