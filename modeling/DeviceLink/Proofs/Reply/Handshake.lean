import DeviceLink.Proofs.Line.Pattern
import DeviceLink.Reply.Handshake

/-!
# Handshakes

A handshake searches for the startup pattern, writes the response pattern and
searches for it in what waits then. It succeeds when both searches find their
pattern. The write is made only behind the startup pattern, once, and the
searches write nothing.
-/

namespace DeviceLink

open Line

namespace Line

/-- A write that the device refuses fails. -/
theorem write_of_refused
    {line : Line}
    {bytes : List UInt8}
    {device : LineDevice}
    {cause : LinkError}
    (refused : line.device.answer bytes = (.error cause, device)) :
    ∃ written, write bytes line = (.error (.error cause), written) := by
  refine ⟨(write bytes line).2, ?_⟩
  simp [write, refused]

end Line

namespace Handshake

/-- The end of a handshake whose startup pattern was answered. -/
def concluding (echoed : Bool) : Exchange Line Response :=
  if echoed then pure .success else pure (.readFailed [])

/-- The part of a handshake behind the startup pattern: answer it, and wait for the echo. -/
def answering (handshake : Handshake) : Exchange Line Response := do
  Line.write handshake.response
  let echoed ← Line.awaitPattern handshake.settings handshake.response
  concluding echoed

theorem execute_eq (handshake : Handshake) :
    handshake.execute = (do
      if ← Line.awaitPattern handshake.settings handshake.startup then handshake.answering
      else pure .writeFailed) := rfl

/-- The line delivers the startup pattern behind the bytes `skipped` and the device takes the
response, so that the events `waiting` are there for the second search. -/
inductive Answered (handshake : Handshake) (line : Line) (skipped : List UInt8) :
    List LineEvent → Prop
  | taken
      {between answer : List LineEvent}
      {device : LineDevice}
      (found :
        PatternFound handshake.settings line.endsWhenDrained handshake.startup line.incoming
          skipped between)
      (took : line.device.answer handshake.response = (.ok answer, device)) :
      Answered handshake line skipped (between ++ answer)

/-- How a handshake ends, by what the line delivers in both searches. -/
inductive Ending (handshake : Handshake) (line : Line) : Except Fault Response → Prop
  | unannounced
      {unread : List LineEvent}
      (missed :
        PatternMissed handshake.settings line.endsWhenDrained handshake.startup line.incoming
          unread) :
      Ending handshake line (.ok .writeFailed)
  | confirmed
      {skipped passed : List UInt8}
      {waiting unread : List LineEvent}
      (answered : handshake.Answered line skipped waiting)
      (found :
        PatternFound handshake.settings line.endsWhenDrained handshake.response waiting
          passed unread) :
      Ending handshake line (.ok .success)
  | unconfirmed
      {skipped : List UInt8}
      {waiting unread : List LineEvent}
      (answered : handshake.Answered line skipped waiting)
      (missed :
        PatternMissed handshake.settings line.endsWhenDrained handshake.response waiting
          unread) :
      Ending handshake line (.ok ⟨true, false, none⟩)
  | broken (fault : Fault) : Ending handshake line (.error fault)

section Endings

variable {handshake : Handshake} {line : Line} {skipped passed : List UInt8}
  {between waiting unread : List LineEvent}

/-- A handshake whose startup pattern is missed ends without a write. -/
theorem execute_of_missed
    (missed :
      PatternMissed handshake.settings line.endsWhenDrained handshake.startup line.incoming
        unread) :
    ∃ bytes later, handshake.execute line = (.ok .writeFailed, later) ∧
      line.Reads bytes unread later := by
  obtain ⟨bytes, later, ran, reads⟩ := awaitPattern_of_missed missed
  exact ⟨bytes, later, Exchange.bind_of_ok ran _, reads⟩

/-- A handshake whose first search fails ends without a write. -/
theorem execute_of_failed
    {cause : LinkError}
    (failed :
      PatternFailed handshake.settings line.endsWhenDrained cause handshake.startup
        line.incoming unread) :
    ∃ bytes later, handshake.execute line = (.error (.error cause), later) ∧
      line.Reads bytes unread later := by
  obtain ⟨bytes, later, ran, reads⟩ := awaitPattern_of_failed failed
  exact ⟨bytes, later, Exchange.bind_of_error ran _, reads⟩

/-- A handshake reads up to the end of its startup pattern and goes on with the answer; an empty
pattern is not waited for. -/
theorem execute_of_found
    (found :
      PatternFound handshake.settings line.endsWhenDrained handshake.startup line.incoming
        skipped between) :
    ∃ announced, handshake.execute line = handshake.answering announced ∧
      line.Reads (skipped ++ handshake.startup) between announced ∧
      (handshake.startup = [] → announced = line) := by
  obtain ⟨announced, searched, reads⟩ := awaitPattern_of_found found
  refine ⟨announced, ?_, reads, ?_⟩
  · rw [execute_eq]
    exact Exchange.bind_of_ok searched _
  · intro empty
    rw [empty] at searched
    cases searched
    rfl

/-- An answered handshake ends with its second search, which starts on the waiting events. -/
theorem execute_of_answered (answered : handshake.Answered line skipped waiting) :
    ∃ written, line.journal <:+ written.journal ∧
      bytesRead (line.since written) = skipped ++ handshake.startup ∧
      written.incoming = waiting ∧ written.endsWhenDrained = line.endsWhenDrained ∧
      handshake.execute line =
        (awaitPattern handshake.settings handshake.response >>= concluding) written := by
  cases answered with
  | taken found took =>
      obtain ⟨announced, ran, reads, -⟩ := execute_of_found found
      rw [← reads.device_eq] at took
      obtain ⟨written, wrote, incoming, ends, -, journal⟩ := write_of_taken took
      have grown : announced.journal <:+ written.journal := by
        rw [journal]
        exact List.suffix_cons _ _
      have alone : announced.since written = [.wrote handshake.response (.ok ())] :=
        since_eq journal
      refine ⟨written, reads.suffix_journal.trans grown, ?_, ?_, ?_, ?_⟩
      · rw [since_append reads.suffix_journal grown, bytesRead_append, reads.bytesRead_since,
          alone]
        exact List.append_nil _
      · rw [incoming, reads.incoming_eq]
      · rw [ends, reads.endsWhenDrained_eq]
      · rw [ran]
        exact Exchange.bind_of_ok wrote _

/-- A handshake both of whose patterns are found succeeds, and it reads to the end of both. -/
theorem execute_of_confirmed
    (answered : handshake.Answered line skipped waiting)
    (found :
      PatternFound handshake.settings line.endsWhenDrained handshake.response waiting
        passed unread) :
    ∃ later, handshake.execute line = (.ok .success, later) ∧ later.incoming = unread ∧
      bytesRead (line.since later) =
        skipped ++ handshake.startup ++ (passed ++ handshake.response) := by
  obtain ⟨written, grown, read, rfl, ends, ran⟩ := execute_of_answered answered
  rw [← ends] at found
  obtain ⟨later, searched, reads⟩ := awaitPattern_of_found found
  refine ⟨later, ran.trans (Exchange.bind_of_ok searched _), reads.incoming_eq, ?_⟩
  rw [since_append grown reads.suffix_journal, bytesRead_append, read, reads.bytesRead_since]

/-- A handshake whose response pattern is missed is not confirmed. -/
theorem execute_of_unconfirmed
    (answered : handshake.Answered line skipped waiting)
    (missed :
      PatternMissed handshake.settings line.endsWhenDrained handshake.response waiting
        unread) :
    (handshake.execute line).1 = .ok ⟨true, false, none⟩ := by
  obtain ⟨written, -, -, rfl, ends, ran⟩ := execute_of_answered answered
  rw [← ends] at missed
  obtain ⟨bytes, later, searched, -⟩ := awaitPattern_of_missed missed
  rw [ran, Exchange.bind_of_ok searched]
  rfl

end Endings

/-- Every handshake ends in one of the ways. -/
theorem ending_execute
    (handshake : Handshake)
    (line : Line) :
    handshake.Ending line (handshake.execute line).1 := by
  obtain ⟨skipped, between, found⟩ | ⟨unread, missed⟩ | ⟨cause, unread, failed⟩ :=
    pattern_found_or_missed_or_failed handshake.settings line.endsWhenDrained
      handshake.startup line.incoming
  · cases took : line.device.answer handshake.response with
    | mk outcome device =>
        cases outcome with
        | error cause =>
            obtain ⟨announced, ran, reads, -⟩ := execute_of_found found
            rw [← reads.device_eq] at took
            obtain ⟨written, refused⟩ := write_of_refused took
            rw [ran, answering, Exchange.bind_of_error refused]
            exact .broken _
        | ok answer =>
            have answered : handshake.Answered line skipped (between ++ answer) :=
              .taken found took
            obtain ⟨passed, unread, echoed⟩ | ⟨unread, missed⟩ | ⟨cause, unread, failed⟩ :=
              pattern_found_or_missed_or_failed handshake.settings line.endsWhenDrained
                handshake.response (between ++ answer)
            · obtain ⟨later, ran, -, -⟩ := execute_of_confirmed answered echoed
              rw [ran]
              exact .confirmed answered echoed
            · rw [execute_of_unconfirmed answered missed]
              exact .unconfirmed answered missed
            · obtain ⟨written, -, -, waiting, ends, ran⟩ := execute_of_answered answered
              rw [← waiting, ← ends] at failed
              obtain ⟨bytes, later, searched, -⟩ := awaitPattern_of_failed failed
              rw [ran, Exchange.bind_of_error searched]
              exact .broken _
  · obtain ⟨bytes, later, ran, -⟩ := execute_of_missed missed
    rw [ran]
    exact .unannounced missed
  · obtain ⟨bytes, later, ran, -⟩ := execute_of_failed failed
    rw [ran]
    exact .broken _

/-! ## The response of a handshake -/

section Responses

variable {handshake : Handshake} {line : Line}

theorem execute_eq_success_iff :
    (handshake.execute line).1 = .ok .success ↔
      ∃ skipped waiting passed unread, handshake.Answered line skipped waiting ∧
        PatternFound handshake.settings line.endsWhenDrained handshake.response waiting
          passed unread := by
  constructor
  · intro success
    have ending := handshake.ending_execute line
    rw [success] at ending
    cases ending with
    | confirmed answered found => exact ⟨_, _, _, _, answered, found⟩
  · rintro ⟨skipped, waiting, passed, unread, answered, found⟩
    obtain ⟨later, ran, -, -⟩ := execute_of_confirmed answered found
    rw [ran]

theorem execute_eq_writeFailed_iff :
    (handshake.execute line).1 = .ok .writeFailed ↔
      ∃ unread,
        PatternMissed handshake.settings line.endsWhenDrained handshake.startup line.incoming
          unread := by
  constructor
  · intro unwritten
    have ending := handshake.ending_execute line
    rw [unwritten] at ending
    cases ending with
    | unannounced missed => exact ⟨_, missed⟩
  · rintro ⟨unread, missed⟩
    obtain ⟨bytes, later, ran, -⟩ := execute_of_missed missed
    rw [ran]

theorem execute_eq_readFailed_iff :
    (handshake.execute line).1 = .ok ⟨true, false, none⟩ ↔
      ∃ skipped waiting unread, handshake.Answered line skipped waiting ∧
        PatternMissed handshake.settings line.endsWhenDrained handshake.response waiting
          unread := by
  constructor
  · intro unechoed
    have ending := handshake.ending_execute line
    rw [unechoed] at ending
    cases ending with
    | unconfirmed answered missed => exact ⟨_, _, _, answered, missed⟩
  · rintro ⟨skipped, waiting, unread, answered, missed⟩
    exact execute_of_unconfirmed answered missed

theorem response_cases
    {response : Response}
    (ended : (handshake.execute line).1 = .ok response) :
    response = .success ∨ response = .writeFailed ∨ response = ⟨true, false, none⟩ := by
  have ending := handshake.ending_execute line
  rw [ended] at ending
  cases ending with
  | unannounced _ => exact .inr (.inl rfl)
  | confirmed _ _ => exact .inl rfl
  | unconfirmed _ _ => exact .inr (.inr rfl)

end Responses

/-! ## The write of a handshake -/

/-- Answering writes the response first and then writes nothing, and an empty response is
not waited for. -/
theorem operations_answering
    (handshake : Handshake)
    (line : Line) :
    ∃ outcome after,
      line.journal <:+ (handshake.answering line).2.journal ∧
      line.since (handshake.answering line).2 = .wrote handshake.response outcome :: after ∧
      bytesWritten after = [] ∧ (handshake.response = [] → after = []) := by
  obtain ⟨outcome, journal⟩ := journal_write handshake.response line
  have alone : line.since (write handshake.response line).2 =
      [.wrote handshake.response outcome] := since_eq journal
  have grown := suffix_journal_write handshake.response line
  refine ⟨outcome, (write handshake.response line).2.since (handshake.answering line).2, ?_⟩
  cases wrote : write handshake.response line with
  | mk accepted written =>
      rw [wrote] at alone grown
      cases accepted with
      | error fault =>
          rw [answering, Exchange.bind_of_error wrote, since_self]
          exact ⟨grown, alone, rfl, fun _ => rfl⟩
      | ok done =>
          have search :
              ReadsOnly (awaitPattern handshake.settings handshake.response >>= concluding) := by
            refine .bind (.awaitPattern handshake.settings handshake.response) fun echoed => ?_
            cases echoed with
            | true => exact .pure Response.success
            | false => exact .pure (Response.readFailed [])
          obtain ⟨bytes, unread, reads⟩ := search written
          rw [answering, Exchange.bind_of_ok wrote]
          refine ⟨grown.trans reads.suffix_journal, ?_, reads.bytesWritten_since, ?_⟩
          · rw [since_append grown reads.suffix_journal, alone]
            rfl
          · intro silent
            rw [silent]
            exact since_self written

/-- A handshake makes no write, or one, of its response, behind the startup pattern. -/
theorem operations_execute
    (handshake : Handshake)
    (line : Line) :
    bytesWritten (line.since (handshake.execute line).2) = [] ∨
      ∃ before outcome after skipped between,
        line.since (handshake.execute line).2 =
          before ++ .wrote handshake.response outcome :: after ∧
        bytesWritten before = [] ∧ bytesWritten after = [] ∧
        PatternFound handshake.settings line.endsWhenDrained handshake.startup line.incoming
          skipped between ∧
        bytesRead before = skipped ++ handshake.startup ∧
        (handshake.startup = [] → before = []) ∧ (handshake.response = [] → after = []) := by
  obtain ⟨skipped, between, found⟩ | ⟨unread, missed⟩ | ⟨cause, unread, failed⟩ :=
    pattern_found_or_missed_or_failed handshake.settings line.endsWhenDrained
      handshake.startup line.incoming
  · obtain ⟨announced, ran, reads, unasked⟩ := execute_of_found found
    obtain ⟨outcome, after, grown, answer, silent, empty⟩ :=
      handshake.operations_answering announced
    refine .inr ⟨line.since announced, outcome, after, skipped, between, ?_,
      reads.bytesWritten_since, silent, found, reads.bytesRead_since, ?_, empty⟩
    · rw [ran, since_append reads.suffix_journal grown, answer]
    · intro nothing
      rw [unasked nothing]
      exact since_self line
  · obtain ⟨bytes, later, ran, reads⟩ := execute_of_missed missed
    rw [ran]
    exact .inl reads.bytesWritten_since
  · obtain ⟨bytes, later, ran, reads⟩ := execute_of_failed failed
    rw [ran]
    exact .inl reads.bytesWritten_since

/-- A handshake writes at most once, its response, and only when it has read the startup
pattern, from the first occurrence of its first byte. It succeeds exactly when the startup
pattern is found, the device takes the response and the response pattern is found in what
waits then; nothing behind it is read. It ends as a failed write, with no write made, exactly
when the startup pattern is missed, and as a failed read without data exactly when only the
response pattern is missed. There is no other response, and empty patterns are found without
any operation. -/
theorem execute_protocol
    (handshake : Handshake)
    (line : Line) :
    let run := handshake.execute line
    let operations := line.since run.2
    let found := PatternFound handshake.settings line.endsWhenDrained
    let missed := PatternMissed handshake.settings line.endsWhenDrained
    (bytesWritten operations = [] ∨
      ∃ before outcome after skipped between,
        operations = before ++ .wrote handshake.response outcome :: after ∧
        bytesWritten before = [] ∧ bytesWritten after = [] ∧
        found handshake.startup line.incoming skipped between ∧
        bytesRead before = skipped ++ handshake.startup ∧
        (handshake.startup = [] → before = []) ∧ (handshake.response = [] → after = [])) ∧
    (run.1 = .ok .success ↔
      ∃ skipped waiting passed unread, handshake.Answered line skipped waiting ∧
        found handshake.response waiting passed unread) ∧
    (∀ skipped waiting passed unread, handshake.Answered line skipped waiting →
      found handshake.response waiting passed unread →
      run.2.incoming = unread ∧
        bytesRead operations =
          skipped ++ handshake.startup ++ (passed ++ handshake.response)) ∧
    (run.1 = .ok .writeFailed ↔ ∃ unread, missed handshake.startup line.incoming unread) ∧
    (run.1 = .ok .writeFailed → bytesWritten operations = []) ∧
    (run.1 = .ok ⟨true, false, none⟩ ↔
      ∃ skipped waiting unread, handshake.Answered line skipped waiting ∧
        missed handshake.response waiting unread) ∧
    (∀ response, run.1 = .ok response →
      response = .success ∨ response = .writeFailed ∨ response = ⟨true, false, none⟩) := by
  intro run operations found missed
  refine ⟨handshake.operations_execute line, execute_eq_success_iff, ?_,
    execute_eq_writeFailed_iff, ?_, execute_eq_readFailed_iff, fun _ => response_cases⟩
  · intro skipped waiting passed unread answered echoed
    obtain ⟨later, ran, incoming, read⟩ := execute_of_confirmed answered echoed
    have ends : run = (.ok .success, later) := ran
    change run.2.incoming = _ ∧ bytesRead (line.since run.2) = _
    rw [ends]
    exact ⟨incoming, read⟩
  · intro unwritten
    obtain ⟨unread, unannounced⟩ := execute_eq_writeFailed_iff.1 unwritten
    obtain ⟨bytes, later, ran, reads⟩ := execute_of_missed unannounced
    have ends : run = (.ok .writeFailed, later) := ran
    change bytesWritten (line.since run.2) = []
    rw [ends]
    exact reads.bytesWritten_since

end Handshake

end DeviceLink
