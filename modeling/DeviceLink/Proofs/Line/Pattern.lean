import DeviceLink.Proofs.Line.Echo

/-!
# Awaited patterns

A pattern is found when the line delivers its first byte, behind other bytes,
and then at once the rest. The first byte is waited for with the patience of
the drain timeout, the rest with that of the read timeout. A search that ends
without a failure either finds the pattern, and then it has read exactly the
bytes up to the end of it, or it misses the pattern.
-/

namespace DeviceLink

namespace Line

/-! ## How a search can end -/

/-- The line delivers a pattern behind the bytes `skipped`, which do not have its first byte. -/
inductive PatternFound (settings : LineSettings) (ends : Bool) :
    List UInt8 → List LineEvent → List UInt8 → List LineEvent → Prop
  | empty (events : List LineEvent) : PatternFound settings ends [] events [] events
  | behind
      {first : UInt8}
      {rest skipped : List UInt8}
      {events between unread : List LineEvent}
      (other : first ∉ skipped)
      (started :
        Delivers settings.drainTimeout.positive ends events (skipped ++ [first]) between)
      (followed : Delivers settings.readTimeout.positive ends between rest unread) :
      PatternFound settings ends (first :: rest) events skipped unread

/-- A poll meets no byte before the first byte of a pattern came, or the pattern breaks off
behind it: by another byte, the end, or the end of the read budget. -/
inductive PatternMissed (settings : LineSettings) (ends : Bool) :
    List UInt8 → List LineEvent → List LineEvent → Prop
  | absent
      {first : UInt8}
      {rest skipped : List UInt8}
      {events between unread : List LineEvent}
      {poll : Poll}
      (other : first ∉ skipped)
      (delivered : Delivers settings.drainTimeout.positive ends events skipped between)
      (met : meet settings.drainTimeout.positive ends between = (.ok poll, unread))
      (noByte : arrival (.ok poll) = []) :
      PatternMissed settings ends (first :: rest) events unread
  | broken
      {first : UInt8}
      {rest skipped : List UInt8}
      {events between unread : List LineEvent}
      (other : first ∉ skipped)
      (started :
        Delivers settings.drainTimeout.positive ends events (skipped ++ [first]) between)
      (miss : EchoMiss settings.readTimeout.positive ends rest between unread) :
      PatternMissed settings ends (first :: rest) events unread

/-- A poll fails before the first byte of a pattern came, or behind it. -/
inductive PatternFailed (settings : LineSettings) (ends : Bool) (cause : LinkError) :
    List UInt8 → List LineEvent → List LineEvent → Prop
  | searching
      {first : UInt8}
      {rest skipped : List UInt8}
      {events between unread : List LineEvent}
      (other : first ∉ skipped)
      (delivered : Delivers settings.drainTimeout.positive ends events skipped between)
      (met : meet settings.drainTimeout.positive ends between = (.error cause, unread)) :
      PatternFailed settings ends cause (first :: rest) events unread
  | following
      {first expected : UInt8}
      {skipped matched remaining : List UInt8}
      {events between stopped unread : List LineEvent}
      (other : first ∉ skipped)
      (started :
        Delivers settings.drainTimeout.positive ends events (skipped ++ [first]) between)
      (followed : Delivers settings.readTimeout.positive ends between matched stopped)
      (met : meet settings.readTimeout.positive ends stopped = (.error cause, unread)) :
      PatternFailed settings ends cause (first :: matched ++ expected :: remaining) events unread

/-! ## What a line delivers in a search -/

/-- A poll that meets a byte takes it from the line. -/
theorem length_of_meet_byte
    {patient ends : Bool}
    {events unread : List LineEvent}
    {value : UInt8}
    (met : meet patient ends events = (.ok (.byte value), unread)) :
    unread.length < events.length := by
  induction events with
  | nil =>
      rw [meet] at met
      split at met
      · cases met
      · cases met
  | cons event rest inductionHypothesis =>
      rw [List.length_cons]
      rw [meet] at met
      split at met
      · cases met
        exact Nat.lt_succ_self _
      · split at met
        · exact Nat.lt_succ_of_lt (inductionHypothesis met)
        · cases met

namespace Delivers

variable {patient ends : Bool} {events unread : List LineEvent} {bytes : List UInt8}

/-- A line delivers at most one byte for each event. -/
theorem length_le
    (delivered : Delivers patient ends events bytes unread) :
    bytes.length + unread.length ≤ events.length := by
  induction delivered with
  | nothing events => exact Nat.le_of_eq (Nat.zero_add _)
  | byte met _ inductionHypothesis =>
      have shorter := length_of_meet_byte met
      rw [List.length_cons]
      omega

/-- A line delivers other bytes up to a sought one, or up to a poll without a byte. -/
theorem up_to_byte
    (patient ends : Bool)
    (target : UInt8)
    (events : List LineEvent) :
    ∃ skipped between, target ∉ skipped ∧ Delivers patient ends events skipped between ∧
      ((∃ unread, meet patient ends between = (.ok (.byte target), unread)) ∨
        arrival (meet patient ends between).1 = []) := by
  -- A poll that meets another byte leaves fewer events.
  induction size : events.length using Nat.strongRecOn generalizing events with
  | ind count inductionHypothesis =>
      cases met : meet patient ends events with
      | mk outcome rest =>
          cases outcome with
          | error cause =>
              refine ⟨[], events, List.not_mem_nil, .nothing events, .inr ?_⟩
              rw [met]
              rfl
          | ok poll =>
              cases poll with
              | byte value =>
                  by_cases same : value = target
                  · subst same
                    exact ⟨[], events, List.not_mem_nil, .nothing events, .inl ⟨rest, met⟩⟩
                  · have fewer : rest.length < count := size ▸ length_of_meet_byte met
                    obtain ⟨skipped, between, other, behind, stop⟩ :=
                      inductionHypothesis rest.length fewer rest rfl
                    refine ⟨value :: skipped, between, ?_, .byte met behind, stop⟩
                    exact List.not_mem_cons_of_ne_of_not_mem (Ne.symm same) other
              | expired =>
                  refine ⟨[], events, List.not_mem_nil, .nothing events, .inr ?_⟩
                  rw [met]
                  rfl
              | ended =>
                  refine ⟨[], events, List.not_mem_nil, .nothing events, .inr ?_⟩
                  rw [met]
                  rfl

/-- A line delivers expected bytes, misses them, or fails in between. -/
theorem or_miss_or_failure
    (patient ends : Bool)
    (expected : List UInt8)
    (events : List LineEvent) :
    (∃ unread, Delivers patient ends events expected unread) ∨
    (∃ unread, EchoMiss patient ends expected events unread) ∨
    (∃ matched next remaining between unread cause, expected = matched ++ next :: remaining ∧
      Delivers patient ends events matched between ∧
      meet patient ends between = (.error cause, unread)) := by
  induction expected generalizing events with
  | nil => exact .inl ⟨events, .nothing events⟩
  | cons next expected inductionHypothesis =>
      cases met : meet patient ends events with
      | mk outcome rest =>
          cases outcome with
          | error cause =>
              exact .inr (.inr ⟨[], next, expected, events, rest, cause, rfl, .nothing events,
                met⟩)
          | ok poll =>
              cases poll with
              | byte value =>
                  by_cases same : value = next
                  · subst same
                    obtain ⟨unread, behind⟩ | ⟨unread, miss⟩ |
                        ⟨matched, later, remaining, between, unread, cause, rfl, behind,
                          failed⟩ :=
                      inductionHypothesis rest
                    · exact .inl ⟨unread, .byte met behind⟩
                    · exact .inr (.inl ⟨unread, miss.cons met⟩)
                    · exact .inr (.inr ⟨value :: matched, later, remaining, between, unread,
                        cause, rfl, .byte met behind, failed⟩)
                  · exact .inr (.inl ⟨rest, .differs rfl (.nothing events) met same⟩)
              | expired => exact .inr (.inl ⟨rest, .expired rfl (.nothing events) met⟩)
              | ended => exact .inr (.inl ⟨rest, .ended rfl (.nothing events) met⟩)

end Delivers

/-- A search finds its pattern, misses it, or fails. -/
theorem pattern_found_or_missed_or_failed
    (settings : LineSettings)
    (ends : Bool)
    (pattern : List UInt8)
    (events : List LineEvent) :
    (∃ skipped unread, PatternFound settings ends pattern events skipped unread) ∨
    (∃ unread, PatternMissed settings ends pattern events unread) ∨
    (∃ cause unread, PatternFailed settings ends cause pattern events unread) := by
  cases pattern with
  | nil => exact .inl ⟨[], events, .empty events⟩
  | cons first rest =>
      obtain ⟨skipped, between, other, delivered, ⟨behind, met⟩ | noByte⟩ :=
        Delivers.up_to_byte settings.drainTimeout.positive ends first events
      · have started := delivered.append (.byte met (.nothing behind))
        obtain ⟨unread, followed⟩ | ⟨unread, miss⟩ |
            ⟨matched, next, remaining, stopped, unread, cause, rfl, followed, failed⟩ :=
          Delivers.or_miss_or_failure settings.readTimeout.positive ends rest behind
        · exact .inl ⟨skipped, unread, .behind other started followed⟩
        · exact .inr (.inl ⟨unread, .broken other started miss⟩)
        · exact .inr (.inr ⟨cause, unread, .following other started followed failed⟩)
      · cases met : meet settings.drainTimeout.positive ends between with
        | mk outcome unread =>
            rw [met] at noByte
            cases outcome with
            | error cause => exact .inr (.inr ⟨cause, unread, .searching other delivered met⟩)
            | ok poll => exact .inr (.inl ⟨unread, .absent other delivered met noByte⟩)

/-! ## What a search takes from the line -/

section Search

variable {budget : Duration} {line : Line} {between unread : List LineEvent}
  {outcome : Except LinkError Poll} {target expected : UInt8}
  {skipped matched remaining command : List UInt8}

/-- A search for a byte goes on behind other bytes. -/
theorem seekWithin_delivered
    (other : target ∉ skipped)
    (delivered : Delivers budget.positive line.endsWhenDrained line.incoming skipped between)
    (count : Nat) :
    ∃ later,
      seekWithin budget target (skipped.length + count) line =
        seekWithin budget target count later ∧
      line.Reads skipped between later := by
  induction skipped generalizing line with
  | nil =>
      cases delivered with
      | nothing =>
          refine ⟨line, ?_, .refl line⟩
          rw [List.length_nil, Nat.zero_add]
  | cons value skipped inductionHypothesis =>
      cases delivered with
      | byte met behind =>
          obtain ⟨next, polled, reads⟩ := poll_of_meet met
          rw [← reads.incoming_eq, ← reads.endsWhenDrained_eq] at behind
          have differs : value ≠ target := fun same => other (same ▸ List.mem_cons_self)
          obtain ⟨later, goesOn, readsOn⟩ :=
            inductionHypothesis (fun member => other (List.mem_cons_of_mem _ member)) behind
          refine ⟨later, ?_, reads.trans readsOn⟩
          rw [List.length_cons, Nat.succ_add, seekWithin, Exchange.bind_of_ok polled]
          simp only [if_neg differs]
          exact goesOn

/-- A search for a byte ends at the poll that meets the byte, or no byte, or fails. -/
theorem seek_of_meet
    (other : target ∉ skipped)
    (delivered : Delivers budget.positive line.endsWhenDrained line.incoming skipped between)
    (met : meet budget.positive line.endsWhenDrained between = (outcome, unread))
    (stop : outcome = .ok (.byte target) ∨ arrival outcome = []) :
    ∃ later,
      seek budget target line =
        (outcomeOf (outcome.map fun poll => decide (poll = .byte target)), later) ∧
      line.Reads (skipped ++ arrival outcome) unread later := by
  obtain ⟨spare, enough⟩ : ∃ spare, line.incoming.length + 1 = skipped.length + (spare + 1) :=
    ⟨line.incoming.length - skipped.length, by have := delivered.length_le; omega⟩
  obtain ⟨next, goesOn, reads⟩ := seekWithin_delivered other delivered (spare + 1)
  rw [← reads.incoming_eq, ← reads.endsWhenDrained_eq] at met
  obtain ⟨later, polled, readsOn⟩ := poll_of_meet met
  refine ⟨later, ?_, reads.trans readsOn⟩
  rw [seek, enough, goesOn, seekWithin]
  cases outcome with
  | error cause => exact Exchange.bind_of_error polled _
  | ok poll =>
      rw [Exchange.bind_of_ok polled]
      cases poll with
      | byte value =>
          obtain same | noByte := stop
          · cases same
            simp [Except.map, outcomeOf]
          · cases noByte
      | expired => rfl
      | ended => rfl

/-- A comparison goes on behind bytes that match. -/
theorem matchBytes_delivered
    (delivered : Delivers budget.positive line.endsWhenDrained line.incoming matched between)
    (remaining : List UInt8) :
    ∃ later,
      matchBytes budget (matched ++ remaining) line = matchBytes budget remaining later ∧
      line.Reads matched between later := by
  induction matched generalizing line with
  | nil =>
      cases delivered with
      | nothing => exact ⟨line, rfl, .refl line⟩
  | cons value matched inductionHypothesis =>
      cases delivered with
      | byte met behind =>
          obtain ⟨next, polled, reads⟩ := poll_of_meet met
          rw [← reads.incoming_eq, ← reads.endsWhenDrained_eq] at behind
          obtain ⟨later, goesOn, readsOn⟩ := inductionHypothesis behind
          refine ⟨later, ?_, reads.trans readsOn⟩
          rw [List.cons_append, matchBytes, Exchange.bind_of_ok polled]
          simp only [if_true]
          exact goesOn

/-- A comparison ends at the first poll that does not meet the expected byte. -/
theorem matchBytes_of_meet
    (delivered : Delivers budget.positive line.endsWhenDrained line.incoming matched between)
    (met : meet budget.positive line.endsWhenDrained between = (outcome, unread))
    (differs : outcome ≠ .ok (.byte expected)) :
    ∃ later,
      matchBytes budget (matched ++ expected :: remaining) line =
        (outcomeOf (outcome.map fun _ => false), later) ∧
      line.Reads (matched ++ arrival outcome) unread later := by
  obtain ⟨next, goesOn, reads⟩ := matchBytes_delivered delivered (expected :: remaining)
  rw [← reads.incoming_eq, ← reads.endsWhenDrained_eq] at met
  obtain ⟨later, polled, readsOn⟩ := poll_of_meet met
  refine ⟨later, ?_, reads.trans readsOn⟩
  rw [goesOn, matchBytes]
  cases outcome with
  | error cause => exact Exchange.bind_of_error polled _
  | ok poll =>
      rw [Exchange.bind_of_ok polled]
      cases poll with
      | byte value =>
          have other : value ≠ expected := fun same => differs (same ▸ rfl)
          simp only [if_neg other]
          rfl
      | expired => rfl
      | ended => rfl

/-- A comparison that the line does not bear out fails. -/
theorem matchBytes_of_miss
    (miss : EchoMiss budget.positive line.endsWhenDrained command line.incoming unread) :
    ∃ bytes later,
      matchBytes budget command line = (.ok false, later) ∧ line.Reads bytes unread later := by
  cases miss with
  | differs parts delivered met other =>
      subst parts
      refine ⟨_, matchBytes_of_meet delivered met fun same => other ?_⟩
      cases same
      rfl
  | ended parts delivered met =>
      subst parts
      exact ⟨_, matchBytes_of_meet delivered met nofun⟩
  | expired parts delivered met =>
      subst parts
      exact ⟨_, matchBytes_of_meet delivered met nofun⟩

variable {settings : LineSettings} {first : UInt8} {pattern rest : List UInt8}

/-- A search that met the first byte of its pattern goes on with the rest. -/
theorem awaitPattern_of_started
    (other : first ∉ skipped)
    (started :
      Delivers settings.drainTimeout.positive line.endsWhenDrained line.incoming
        (skipped ++ [first]) between)
    (rest : List UInt8) :
    ∃ later,
      awaitPattern settings (first :: rest) line =
        matchBytes settings.readTimeout rest later ∧
      line.Reads (skipped ++ [first]) between later := by
  obtain ⟨behind, delivered, last⟩ := started.split
  cases last with
  | byte met nothing =>
      cases nothing with
      | nothing =>
          obtain ⟨later, sought, reads⟩ := seek_of_meet other delivered met (.inl rfl)
          have found : seek settings.drainTimeout first line = (.ok true, later) := by
            simpa [Except.map, outcomeOf] using sought
          exact ⟨later, Exchange.bind_of_ok found _, reads⟩

/-- A pattern that the line delivers is found, and no byte behind it is read. -/
theorem awaitPattern_of_found
    (found :
      PatternFound settings line.endsWhenDrained pattern line.incoming skipped unread) :
    ∃ later,
      awaitPattern settings pattern line = (.ok true, later) ∧
      line.Reads (skipped ++ pattern) unread later := by
  cases found with
  | empty => exact ⟨line, rfl, .refl line⟩
  | @behind first rest _ _ _ _ other started followed =>
      obtain ⟨next, goesOn, reads⟩ := awaitPattern_of_started other started rest
      rw [← reads.incoming_eq, ← reads.endsWhenDrained_eq] at followed
      obtain ⟨later, compared, readsOn⟩ := matchBytes_delivered followed []
      rw [List.append_nil] at compared
      refine ⟨later, goesOn.trans compared, ?_⟩
      rw [List.append_cons]
      exact reads.trans readsOn

/-- A pattern that the line does not deliver is missed. -/
theorem awaitPattern_of_missed
    (missed : PatternMissed settings line.endsWhenDrained pattern line.incoming unread) :
    ∃ bytes later,
      awaitPattern settings pattern line = (.ok false, later) ∧
      line.Reads bytes unread later := by
  cases missed with
  | @absent _ _ _ _ _ _ poll other delivered met noByte =>
      obtain ⟨later, sought, reads⟩ := seek_of_meet other delivered met (.inr noByte)
      refine ⟨_, later, ?_, reads⟩
      cases poll with
      | byte value => cases noByte
      | expired => exact Exchange.bind_of_ok sought _
      | ended => exact Exchange.bind_of_ok sought _
  | @broken _ rest _ _ _ _ other started miss =>
      obtain ⟨next, goesOn, reads⟩ := awaitPattern_of_started other started rest
      rw [← reads.incoming_eq, ← reads.endsWhenDrained_eq] at miss
      obtain ⟨bytes, later, compared, readsOn⟩ := matchBytes_of_miss miss
      exact ⟨_, later, goesOn.trans compared, reads.trans readsOn⟩

/-- A failure of the line ends a search. -/
theorem awaitPattern_of_failed
    {cause : LinkError}
    (failed : PatternFailed settings line.endsWhenDrained cause pattern line.incoming unread) :
    ∃ bytes later,
      awaitPattern settings pattern line = (.error (.error cause), later) ∧
      line.Reads bytes unread later := by
  cases failed with
  | searching other delivered met =>
      obtain ⟨later, sought, reads⟩ := seek_of_meet other delivered met (.inr rfl)
      exact ⟨_, later, Exchange.bind_of_error sought _, reads⟩
  | following other started followed met =>
      obtain ⟨next, goesOn, reads⟩ := awaitPattern_of_started other started _
      rw [← reads.incoming_eq, ← reads.endsWhenDrained_eq] at followed
      rw [← reads.endsWhenDrained_eq] at met
      obtain ⟨later, compared, readsOn⟩ := matchBytes_of_meet followed met nofun
      exact ⟨_, later, goesOn.trans compared, reads.trans readsOn⟩

end Search

/-- Awaiting a pattern writes nothing. -/
theorem ReadsOnly.awaitPattern
    (settings : LineSettings)
    (pattern : List UInt8) :
    ReadsOnly (Line.awaitPattern settings pattern) := by
  intro line
  obtain ⟨skipped, unread, found⟩ | ⟨unread, missed⟩ | ⟨cause, unread, failed⟩ :=
    pattern_found_or_missed_or_failed settings line.endsWhenDrained pattern line.incoming
  · obtain ⟨later, ran, reads⟩ := awaitPattern_of_found found
    rw [ran]
    exact ⟨_, _, reads⟩
  · obtain ⟨bytes, later, ran, reads⟩ := awaitPattern_of_missed missed
    rw [ran]
    exact ⟨_, _, reads⟩
  · obtain ⟨bytes, later, ran, reads⟩ := awaitPattern_of_failed failed
    rw [ran]
    exact ⟨_, _, reads⟩

end Line

end DeviceLink
