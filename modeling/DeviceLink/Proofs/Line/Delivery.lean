import DeviceLink.Proofs.Line.Polling

/-!
# What a line delivers

A line delivers bytes when one poll after another meets them. Reading a number
of bytes takes exactly these from the line. It stops early at the first poll
that meets no byte, and then all that was delivered up to there is taken, and
nothing behind it.
-/

namespace DeviceLink

namespace Line

/-- A reader meets these bytes one after another, and then the events `unread` are left. -/
inductive Delivers (patient ends : Bool) :
    List LineEvent → List UInt8 → List LineEvent → Prop
  | nothing (events : List LineEvent) : Delivers patient ends events [] events
  | byte
      {events between unread : List LineEvent}
      {value : UInt8}
      {bytes : List UInt8}
      (met : meet patient ends events = (.ok (.byte value), between))
      (behind : Delivers patient ends between bytes unread) :
      Delivers patient ends events (value :: bytes) unread

namespace Delivers

variable {patient ends : Bool} {events between unread : List LineEvent}
  {first second bytes : List UInt8}

theorem append
    (delivered : Delivers patient ends events first between)
    (behind : Delivers patient ends between second unread) :
    Delivers patient ends events (first ++ second) unread := by
  induction delivered with
  | nothing events => exact behind
  | byte met _ inductionHypothesis => exact .byte met (inductionHypothesis behind)

theorem split (delivered : Delivers patient ends events (first ++ second) unread) :
    ∃ between, Delivers patient ends events first between ∧
      Delivers patient ends between second unread := by
  induction first generalizing events with
  | nil => exact ⟨events, .nothing events, delivered⟩
  | cons value first inductionHypothesis =>
      cases delivered with
      | byte met behind =>
          obtain ⟨between, early, late⟩ := inductionHypothesis behind
          exact ⟨between, .byte met early, late⟩

/-- Up to any number of bytes, a line delivers that many or stops at a poll without a byte. -/
theorem up_to
    (patient ends : Bool)
    (count : Nat)
    (events : List LineEvent) :
    ∃ bytes between, Delivers patient ends events bytes between ∧
      (bytes.length = count ∨
        bytes.length < count ∧ arrival (meet patient ends between).1 = []) := by
  induction count generalizing events with
  | zero => exact ⟨[], events, .nothing events, .inl rfl⟩
  | succ count inductionHypothesis =>
      cases met : meet patient ends events with
      | mk outcome rest =>
          cases outcome with
          | error cause =>
              refine ⟨[], events, .nothing events, .inr ⟨Nat.succ_pos count, ?_⟩⟩
              rw [met]
              rfl
          | ok poll =>
              cases poll with
              | byte value =>
                  obtain ⟨bytes, between, behind, filled⟩ := inductionHypothesis rest
                  refine ⟨value :: bytes, between, .byte met behind, ?_⟩
                  rw [List.length_cons]
                  obtain full | ⟨short, none⟩ := filled
                  · exact .inl (congrArg (· + 1) full)
                  · exact .inr ⟨Nat.succ_lt_succ short, none⟩
              | expired =>
                  refine ⟨[], events, .nothing events, .inr ⟨Nat.succ_pos count, ?_⟩⟩
                  rw [met]
                  rfl
              | ended =>
                  refine ⟨[], events, .nothing events, .inr ⟨Nat.succ_pos count, ?_⟩⟩
                  rw [met]
                  rfl

end Delivers

section Reading

variable {budget : Duration} {line : Line} {outcome : Except LinkError Poll}
  {between unread : List LineEvent} {bytes : List UInt8}

/-- A poll takes what its reader meets. -/
theorem poll_of_meet
    (met : meet budget.positive line.endsWhenDrained line.incoming = (outcome, unread)) :
    ∃ later, poll budget line = (outcomeOf outcome, later) ∧
      line.Reads (arrival outcome) unread later := by
  obtain ⟨later, polled, reads⟩ := poll_meet budget line
  rw [met] at polled reads
  exact ⟨later, polled, reads⟩

/-- Reading goes on behind the bytes that a line delivers. -/
theorem readMore_delivered
    (delivered : Delivers budget.positive line.endsWhenDrained line.incoming bytes unread)
    (taken : List UInt8)
    (count : Nat) :
    ∃ later,
      readMore budget taken (bytes.length + count) line =
        readMore budget (bytes.reverse ++ taken) count later ∧
      line.Reads bytes unread later := by
  induction bytes generalizing line taken with
  | nil =>
      cases delivered with
      | nothing =>
          refine ⟨line, ?_, .refl line⟩
          simp
  | cons value bytes inductionHypothesis =>
      cases delivered with
      | byte met behind =>
          obtain ⟨next, polled, reads⟩ := poll_of_meet met
          rw [← reads.incoming_eq, ← reads.endsWhenDrained_eq] at behind
          obtain ⟨later, goesOn, readsOn⟩ := inductionHypothesis behind (value :: taken)
          refine ⟨later, ?_, reads.trans readsOn⟩
          rw [List.length_cons, Nat.succ_add, readMore, Exchange.bind_of_ok polled]
          rw [List.reverse_cons, List.append_assoc, List.singleton_append]
          exact goesOn

variable {settings : LineSettings} {count : Nat}

/-- Reading as many bytes as a line delivers takes these bytes. -/
theorem read_complete
    (delivered :
      Delivers settings.readTimeout.positive line.endsWhenDrained line.incoming bytes unread) :
    ∃ later, read settings bytes.length line = (.ok (.complete bytes), later) ∧
      line.Reads bytes unread later := by
  obtain ⟨later, goesOn, reads⟩ := readMore_delivered delivered [] 0
  refine ⟨later, ?_, reads⟩
  rw [Nat.add_zero, List.append_nil, readMore, List.reverse_reverse] at goesOn
  exact goesOn

/-- The reading of bytes behind which a poll met no byte. -/
def shortReading (bytes : List UInt8) : Poll → Reading
  | .ended => .ended
  | _ => .cut bytes

/-- Reading more bytes than a line delivers takes these and stops at the poll behind them. -/
theorem read_short
    (delivered :
      Delivers settings.readTimeout.positive line.endsWhenDrained line.incoming bytes between)
    (short : bytes.length < count)
    (met :
      meet settings.readTimeout.positive line.endsWhenDrained between = (outcome, unread))
    (noByte : arrival outcome = []) :
    ∃ later, read settings count line = (outcomeOf (outcome.map (shortReading bytes)), later) ∧
      line.Reads bytes unread later := by
  obtain ⟨missing, rfl⟩ : ∃ missing, count = bytes.length + (missing + 1) :=
    ⟨count - bytes.length - 1, by omega⟩
  obtain ⟨next, goesOn, reads⟩ := readMore_delivered delivered [] (missing + 1)
  rw [← reads.incoming_eq, ← reads.endsWhenDrained_eq] at met
  obtain ⟨later, polled, readsOn⟩ := poll_of_meet met
  rw [noByte] at readsOn
  refine ⟨later, ?_, ?_⟩
  · rw [read, goesOn, List.append_nil, readMore]
    cases outcome with
    | error cause => exact Exchange.bind_of_error polled _
    | ok poll =>
        rw [Exchange.bind_of_ok polled]
        cases poll with
        | byte value => cases noByte
        | expired => rw [List.reverse_reverse]; rfl
        | ended => rfl
  · have both := reads.trans readsOn
    rw [List.append_nil] at both
    exact both

end Reading

/-! ## Exchanges that only read -/

/-- An exchange that writes nothing, whatever it reads. -/
def ReadsOnly {α : Type} (exchange : Exchange Line α) : Prop :=
  ∀ line : Line, ∃ bytes unread, line.Reads bytes unread (exchange line).2

namespace ReadsOnly

variable {α β : Type}

theorem pure (value : α) : ReadsOnly (Pure.pure value) :=
  fun line => ⟨[], line.incoming, .refl line⟩

theorem bind
    {first : Exchange Line α}
    {next : α → Exchange Line β}
    (firstReads : ReadsOnly first)
    (nextReads : ∀ value, ReadsOnly (next value)) :
    ReadsOnly (first >>= next) := by
  intro line
  obtain ⟨bytes, unread, reads⟩ := firstReads line
  cases ran : first line with
  | mk outcome later =>
      rw [ran] at reads
      cases outcome with
      | error fault =>
          rw [Exchange.bind_of_error ran]
          exact ⟨bytes, unread, reads⟩
      | ok value =>
          rw [Exchange.bind_of_ok ran]
          obtain ⟨more, fewer, readsOn⟩ := nextReads value later
          exact ⟨bytes ++ more, fewer, reads.trans readsOn⟩

theorem available : ReadsOnly Line.available :=
  fun line => ⟨_, _, [.asked (lookAhead line.endsWhenDrained line.incoming).1], rfl, rfl, rfl⟩

theorem takeByte : ReadsOnly Line.takeByte := by
  intro line
  have same : (Line.takeByte line).2 = (readByte line).2 := by
    unfold Line.takeByte
    split
    all_goals
      rename_i read
      rw [read]
  rw [same]
  exact ⟨_, _, [.read (readAhead line.endsWhenDrained line.incoming).1], rfl, rfl, rfl⟩

theorem discardMore (discarded count : Nat) : ReadsOnly (Line.discardMore discarded count) := by
  induction count generalizing discarded with
  | zero => exact .pure discarded
  | succ count inductionHypothesis =>
      refine .bind .available fun waiting => ?_
      cases waiting with
      | false => exact .pure discarded
      | true =>
          refine .bind .takeByte fun taken => ?_
          split
          · exact inductionHypothesis (discarded + 1)
          · exact .pure discarded

/-- Draining a line writes nothing. -/
theorem drain (settings : LineSettings) : ReadsOnly (Line.drain settings) := by
  intro line
  unfold Line.drain
  split
  · exact discardMore 0 (line.incoming.length + 1) line
  · exact ⟨[], line.incoming, .refl line⟩

end ReadsOnly

end Line

end DeviceLink
