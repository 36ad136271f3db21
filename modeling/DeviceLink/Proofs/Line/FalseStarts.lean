import DeviceLink.Proofs.Line.Delays

/-!
# Searches and false starts

On a line that holds bytes with delays between them, a search with time finds
its pattern exactly if the pattern stands where its first byte comes for the
first time. A false start, which is the first byte with something else behind
it than the rest of the pattern, ends the search; what was read is not looked
at again, so a pattern behind a false start is missed.
-/

namespace DeviceLink

namespace Line

/-- Events that hold these bytes in order, with nothing between them but delays. -/
def Carries (events : List LineEvent) (bytes : List UInt8) : Prop :=
  DelayKind.all.keep events = LineEvent.bytes bytes

namespace Carries

variable {ends : Bool} {events others between : List LineEvent} {value : UInt8}
  {bytes front back : List UInt8}

theorem append (carried : Carries events front) (behind : Carries others back) :
    Carries (events ++ others) (front ++ back) := by
  unfold Carries
  rw [DelayKind.keep_append, carried, behind]
  exact List.map_append.symm

/-- What stands in front of the last bytes holds the first ones. -/
theorem of_append
    (carried : Carries (events ++ others) (front ++ back))
    (behind : Carries others back) :
    Carries events front := by
  unfold Carries LineEvent.bytes at *
  rw [DelayKind.keep_append, behind, List.map_append] at carried
  exact List.append_cancel_right carried

/-- A patient reader meets the first byte. -/
theorem meet_byte (carried : Carries events (value :: bytes)) (ends : Bool) :
    ∃ unread, meet true ends events = (.ok (.byte value), unread) ∧ Carries unread bytes := by
  have met := DelayKind.all.meet_keep ends events
  rw [carried] at met
  obtain ⟨outcome, left⟩ := Prod.mk.inj met
  exact ⟨_, Prod.ext outcome.symm rfl, left.symm⟩

/-- A patient reader meets no byte, and no failure, behind the last byte. -/
theorem meet_end (carried : Carries events []) (ends : Bool) :
    (meet true ends events).1 = .ok (if ends then .ended else .expired) := by
  have met := DelayKind.all.meet_keep ends events
  rw [carried] at met
  exact (Prod.mk.inj met).1.symm

theorem meet_ne_error (carried : Carries events bytes) (cause : LinkError) :
    (meet true ends events).1 ≠ .error cause := by
  cases bytes with
  | nil =>
      rw [carried.meet_end]
      rintro ⟨⟩
  | cons value bytes =>
      obtain ⟨unread, met, -⟩ := carried.meet_byte ends
      rw [met]
      rintro ⟨⟩

/-- The line delivers what its events hold. -/
theorem delivers (carried : Carries events (front ++ back)) (ends : Bool) :
    ∃ between, Delivers true ends events front between ∧ Carries between back := by
  induction front generalizing events with
  | nil => exact ⟨events, .nothing events, carried⟩
  | cons value front inductionHypothesis =>
      obtain ⟨next, met, behind⟩ := carried.meet_byte ends
      obtain ⟨between, delivered, left⟩ := inductionHypothesis behind
      exact ⟨between, .byte met delivered, left⟩

/-- What the line delivers stands in front of what is left. -/
theorem of_delivers
    (carried : Carries events bytes)
    (delivered : Delivers true ends events front between) :
    ∃ back, bytes = front ++ back ∧ Carries between back := by
  induction delivered generalizing bytes with
  | nothing events => exact ⟨bytes, rfl, carried⟩
  | byte met _ inductionHypothesis =>
      cases bytes with
      | nil =>
          have none := carried.meet_end ends
          rw [met] at none
          split at none
          · cases none
          · cases none
      | cons value bytes =>
          obtain ⟨unread, same, behind⟩ := carried.meet_byte ends
          rw [met] at same
          cases same
          obtain ⟨back, rfl, left⟩ := inductionHypothesis behind
          exact ⟨back, rfl, left⟩

end Carries

section Search

variable {settings : LineSettings} {ends : Bool} {events unread : List LineEvent} {first : UInt8}
  {rest bytes before after skipped : List UInt8}

/-- A pattern is found where its first byte comes for the first time. -/
theorem PatternFound.of_carries
    (timed : settings.readTimeout.positive = true)
    (drains : settings.drainTimeout.positive = true)
    (carried : Carries events (before ++ first :: rest ++ after))
    (other : first ∉ before) :
    ∃ unread, PatternFound settings ends (first :: rest) events before unread ∧
      Carries unread after := by
  rw [List.append_cons, List.append_assoc] at carried
  obtain ⟨between, started, behind⟩ := carried.delivers ends
  obtain ⟨unread, followed, left⟩ := behind.delivers ends
  rw [← drains] at started
  rw [← timed] at followed
  exact ⟨unread, .behind other started followed, left⟩

/-- A pattern that is found stands where its first byte comes for the first time. -/
theorem PatternFound.split_of_carries
    (timed : settings.readTimeout.positive = true)
    (drains : settings.drainTimeout.positive = true)
    (carried : Carries events bytes)
    (found : PatternFound settings ends (first :: rest) events skipped unread) :
    ∃ after, bytes = skipped ++ first :: rest ++ after ∧ first ∉ skipped := by
  cases found with
  | behind other started followed =>
      rw [drains] at started
      rw [timed] at followed
      obtain ⟨back, rfl, behind⟩ := carried.of_delivers started
      obtain ⟨after, rfl, -⟩ := behind.of_delivers followed
      refine ⟨after, ?_, other⟩
      simp

/-- A search among bytes and delays does not fail. -/
theorem PatternFailed.not_carries
    {cause : LinkError}
    {pattern : List UInt8}
    (timed : settings.readTimeout.positive = true)
    (drains : settings.drainTimeout.positive = true)
    (failed : PatternFailed settings ends cause pattern events unread) :
    ¬ Carries events bytes := by
  intro carried
  cases failed with
  | searching other delivered met =>
      rw [drains] at delivered met
      obtain ⟨back, -, behind⟩ := carried.of_delivers delivered
      exact behind.meet_ne_error cause (congrArg Prod.fst met)
  | following other started followed met =>
      rw [drains] at started
      rw [timed] at followed met
      obtain ⟨back, -, behind⟩ := carried.of_delivers started
      obtain ⟨left, -, stopped⟩ := behind.of_delivers followed
      exact stopped.meet_ne_error cause (congrArg Prod.fst met)

/-- No occurrence of a pattern comes before the first place of its first byte. -/
theorem length_le_of_first
    {earlier behind : List UInt8}
    (other : first ∉ before)
    (same : before ++ first :: rest ++ after = earlier ++ first :: rest ++ behind) :
    before.length ≤ earlier.length := by
  refine Nat.le_of_not_lt fun shorter => ?_
  have here : (earlier ++ first :: rest ++ behind)[earlier.length]? = some first := by simp
  rw [← same, List.append_assoc, List.getElem?_append_left shorter] at here
  exact other (List.mem_of_getElem? here)

variable {line : Line} {matched remaining behind : List UInt8} {expected value : UInt8}

/-- A search finds its pattern where its first byte comes for the first time. -/
theorem awaitPattern_of_first
    (timed : settings.readTimeout.positive = true)
    (drains : settings.drainTimeout.positive = true)
    (carried : Carries line.incoming (before ++ first :: rest ++ after))
    (other : first ∉ before) :
    ∃ later, awaitPattern settings (first :: rest) line = (.ok true, later) ∧
      bytesRead (line.since later) = before ++ first :: rest ∧ Carries later.incoming after := by
  obtain ⟨unread, found, left⟩ := PatternFound.of_carries timed drains carried other
  obtain ⟨later, ran, reads⟩ := awaitPattern_of_found found
  refine ⟨later, ran, reads.bytesRead_since, ?_⟩
  rw [reads.incoming_eq]
  exact left

/-- A search finds nothing if its pattern does not stand where its first byte comes for the first
time. -/
theorem awaitPattern_of_not_first
    (timed : settings.readTimeout.positive = true)
    (drains : settings.drainTimeout.positive = true)
    (carried : Carries line.incoming bytes)
    (absent : ¬ ∃ before after, bytes = before ++ first :: rest ++ after ∧ first ∉ before) :
    ∃ later, awaitPattern settings (first :: rest) line = (.ok false, later) := by
  obtain ⟨skipped, unread, found⟩ | ⟨unread, missed⟩ | ⟨cause, unread, failed⟩ :=
    pattern_found_or_missed_or_failed settings line.endsWhenDrained (first :: rest) line.incoming
  · obtain ⟨after, parts, other⟩ := found.split_of_carries timed drains carried
    exact absurd ⟨skipped, after, parts, other⟩ absent
  · obtain ⟨_, later, ran, -⟩ := awaitPattern_of_missed missed
    exact ⟨later, ran⟩
  · exact absurd carried (failed.not_carries timed drains)

/-- A search ends at the byte that breaks a false start. -/
theorem awaitPattern_of_false_start
    (timed : settings.readTimeout.positive = true)
    (drains : settings.drainTimeout.positive = true)
    (carried : Carries line.incoming (before ++ first :: matched ++ value :: behind))
    (other : first ∉ before)
    (differs : value ≠ expected) :
    ∃ later,
      awaitPattern settings (first :: matched ++ expected :: remaining) line =
        (.ok false, later) ∧
      bytesRead (line.since later) = before ++ first :: matched ++ [value] ∧
      Carries later.incoming behind := by
  rw [List.append_cons before first matched, List.append_assoc] at carried
  obtain ⟨between, started, followed⟩ := carried.delivers line.endsWhenDrained
  obtain ⟨stopped, agrees, last⟩ := followed.delivers line.endsWhenDrained
  obtain ⟨unread, met, left⟩ := last.meet_byte line.endsWhenDrained
  rw [← drains] at started
  rw [← timed] at agrees met
  obtain ⟨next, goesOn, reads⟩ :=
    awaitPattern_of_started other started (matched ++ expected :: remaining)
  rw [← reads.incoming_eq, ← reads.endsWhenDrained_eq] at agrees
  rw [← reads.endsWhenDrained_eq] at met
  have unequal : (.ok (.byte value) : Except LinkError Poll) ≠ .ok (.byte expected) := by
    rintro ⟨⟩
    exact differs rfl
  obtain ⟨later, compared, readsOn⟩ := matchBytes_of_meet agrees met unequal
  refine ⟨later, goesOn.trans compared, ?_, ?_⟩
  · rw [(reads.trans readsOn).bytesRead_since]
    simp [arrival]
  · rw [readsOn.incoming_eq]
    exact left

end Search

/-- On a line that holds bytes with delays between them, a search with time finds its pattern
exactly if the pattern stands where its first byte comes for the first time. Then it reads up to
the end of this occurrence, which is the first one. It does not find a pattern that does not
occur, and not one behind a false start either: that ends the search at the first byte that
differs from the pattern, and what comes behind this byte is left unread. -/
theorem awaitPattern_at_first_start
    (settings : LineSettings)
    (first : UInt8)
    (rest bytes : List UInt8)
    (line : Line)
    (timed : settings.readTimeout.positive = true)
    (drains : settings.drainTimeout.positive = true)
    (carried : Carries line.incoming bytes) :
    let run := awaitPattern settings (first :: rest) line
    (run.1 = .ok true ∨ run.1 = .ok false) ∧
    (run.1 = .ok true ↔
      ∃ before after, bytes = before ++ first :: rest ++ after ∧ first ∉ before) ∧
    (¬ first :: rest <:+: bytes → run.1 = .ok false) ∧
    (∀ before after, bytes = before ++ first :: rest ++ after → first ∉ before →
      bytesRead (line.since run.2) = before ++ first :: rest ∧
      Carries run.2.incoming after ∧
      ∀ earlier behind, bytes = earlier ++ first :: rest ++ behind →
        before.length ≤ earlier.length) ∧
    (∀ before matched expected remaining value behind,
      bytes = before ++ first :: matched ++ value :: behind → first ∉ before →
      rest = matched ++ expected :: remaining → value ≠ expected →
      run.1 = .ok false ∧
      bytesRead (line.since run.2) = before ++ first :: matched ++ [value] ∧
      Carries run.2.incoming behind) := by
  intro run
  have misses
      (absent : ¬ ∃ before after, bytes = before ++ first :: rest ++ after ∧ first ∉ before) :
      run.1 = .ok false := by
    obtain ⟨later, ran⟩ := awaitPattern_of_not_first timed drains carried absent
    exact congrArg Prod.fst ran
  have finds : ∀ before after, bytes = before ++ first :: rest ++ after → first ∉ before →
      run.1 = .ok true ∧ bytesRead (line.since run.2) = before ++ first :: rest ∧
        Carries run.2.incoming after := by
    rintro before after rfl other
    obtain ⟨later, ran, read, left⟩ := awaitPattern_of_first timed drains carried other
    have ends : run = (.ok true, later) := ran
    rw [ends]
    exact ⟨rfl, read, left⟩
  refine ⟨?_, ⟨?_, ?_⟩, ?_, ?_, ?_⟩
  · by_cases stands : ∃ before after, bytes = before ++ first :: rest ++ after ∧ first ∉ before
    · obtain ⟨before, after, parts, other⟩ := stands
      exact .inl (finds before after parts other).1
    · exact .inr (misses stands)
  · intro found
    by_cases stands : ∃ before after, bytes = before ++ first :: rest ++ after ∧ first ∉ before
    · exact stands
    · rw [misses stands] at found
      cases found
  · rintro ⟨before, after, parts, other⟩
    exact (finds before after parts other).1
  · intro absent
    refine misses ?_
    rintro ⟨before, after, parts, -⟩
    exact absent ⟨before, after, parts.symm⟩
  · intro before after parts other
    obtain ⟨-, read, left⟩ := finds before after parts other
    exact ⟨read, left, fun earlier behind same => length_le_of_first other (parts ▸ same)⟩
  · rintro before matched expected remaining value behind rfl other rfl differs
    obtain ⟨later, ran, read, left⟩ :=
      awaitPattern_of_false_start timed drains carried other differs
    have ends : run = (.ok false, later) := ran
    rw [ends]
    exact ⟨rfl, read, left⟩

/-- A pattern behind another byte and with delays in it is found, and the byte behind it is left. -/
theorem awaitPattern_at_first_start_past_delays :
    let events : List LineEvent :=
      [.byte 0x00, .gap, .byte 0x52, .silence, .byte 0x44, .gap, .byte 0x59, .byte 0x55]
    let line := (quiet [] .silent).append events
    let run := awaitPattern {} [0x52, 0x44, 0x59] line
    Carries line.incoming [0x00, 0x52, 0x44, 0x59, 0x55] ∧
      run.1 = .ok true ∧
      bytesRead (line.since run.2) = [0x00, 0x52, 0x44, 0x59] ∧
      Carries run.2.incoming [0x55] := by
  intro events line
  have carried : Carries line.incoming [0x00, 0x52, 0x44, 0x59, 0x55] := rfl
  obtain ⟨-, found, -, takes, -⟩ :=
    awaitPattern_at_first_start {} 0x52 [0x44, 0x59] _ line rfl rfl carried
  obtain ⟨read, left, -⟩ := takes [0x00] [0x55] rfl (by decide)
  exact ⟨carried, found.2 ⟨[0x00], [0x55], rfl, by decide⟩, read, left⟩

/-- Patterns that a line delivers and that a search misses: one behind its own first byte, and a
repeated announcement that is met in the middle of its first repetition. -/
theorem awaitPattern_misses_behind_false_start :
    (let pattern : List UInt8 := [0x52, 0x44, 0x59]
      let bytes := 0x52 :: pattern
      let line := (quiet [] .silent).append (LineEvent.bytes bytes)
      Carries line.incoming bytes ∧ pattern <:+: bytes ∧
        (awaitPattern {} pattern line).1 = .ok false) ∧
      (let pattern : List UInt8 := [0x41, 0x41, 0x42]
        let bytes := pattern.drop 1 ++ pattern ++ pattern
        let line := (quiet [] .silent).append (LineEvent.bytes bytes)
        Carries line.incoming bytes ∧ pattern <:+: bytes ∧
          (awaitPattern {} pattern line).1 = .ok false) :=
  ⟨⟨rfl, ⟨[0x52], [], rfl⟩, rfl⟩, ⟨rfl, ⟨[0x41, 0x42], [0x41, 0x41, 0x42], rfl⟩, rfl⟩⟩

end Line

end DeviceLink
