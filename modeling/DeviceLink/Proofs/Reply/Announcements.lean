import DeviceLink.Proofs.Line.FalseStarts
import DeviceLink.Proofs.Reply.Handshake

/-!
# Repeated announcements

A device announces itself again and again until it is answered, so when the
answer is written there can be announcements on the line that nobody has read.
The search for the echo passes over all of them if the first byte of the answer
does not occur in an announcement.
-/

namespace DeviceLink

open Line

namespace Line

section Search

variable {settings : LineSettings} {ends : Bool} {before reply unread : List LineEvent}
  {pattern passed rest tail : List UInt8} {answered : UInt8}

/-- A search leaves the end of the events. -/
theorem PatternFound.suffix
    (found : PatternFound settings ends pattern before passed unread) :
    unread <:+ before := by
  cases found with
  | empty => exact List.suffix_refl _
  | behind other started followed =>
      obtain ⟨taken, rfl, -⟩ := started.taken
      obtain ⟨takenNext, rfl, -⟩ := followed.taken
      rw [← List.append_assoc]
      exact List.suffix_append _ _

/-- If events that end with a reply are taken so far that only the tail of the reply is left, the
echo in front of it has been taken, with its delays. -/
theorem Carries.echo_taken
    (echoes : Carries reply (answered :: rest ++ tail))
    (left : Carries unread tail)
    (suffix : unread <:+ before ++ reply) :
    ∃ echo, reply = echo ++ unread ∧ Carries echo (answered :: rest) := by
  obtain ⟨echo, rfl⟩ | beyond :=
    List.suffix_or_suffix_of_suffix suffix (List.suffix_append before reply)
  · exact ⟨echo, rfl, echoes.of_append left⟩
  · -- The reply has more bytes than its tail.
    have shorter := (beyond.filter fun event => !DelayKind.all.holds event).length_le
    unfold Carries DelayKind.keep LineEvent.bytes at echoes left
    rw [echoes, left, List.length_map, List.length_map, List.length_append,
      List.length_cons] at shorter
    omega

end Search

end Line

namespace Handshake

/-- What a device sends that announces itself so many times. -/
def announcements (handshake : Handshake) (count : Nat) : List UInt8 :=
  (List.replicate count handshake.startup).flatten

@[simp] theorem announcements_zero (handshake : Handshake) :
    handshake.announcements 0 = [] := rfl

@[simp] theorem announcements_succ (handshake : Handshake) (count : Nat) :
    handshake.announcements (count + 1) =
      handshake.startup ++ handshake.announcements count := rfl

/-- A byte that is not in the startup pattern is in no number of announcements. -/
theorem not_mem_announcements
    {handshake : Handshake}
    {value : UInt8}
    (other : value ∉ handshake.startup)
    (count : Nat) :
    value ∉ handshake.announcements count := by
  induction count with
  | zero => simp
  | succ count inductionHypothesis =>
      rw [announcements_succ, List.mem_append]
      rintro (first | later)
      · exact other first
      · exact inductionHypothesis later

/-- A handshake that finds its startup pattern makes one write, of its response. -/
theorem bytesWritten_of_found
    {handshake : Handshake}
    {line : Line}
    {skipped : List UInt8}
    {between : List LineEvent}
    (found :
      PatternFound handshake.settings line.endsWhenDrained handshake.startup line.incoming
        skipped between) :
    bytesWritten (line.since (handshake.execute line).2) = [handshake.response] := by
  obtain ⟨announced, ran, reads, -⟩ := execute_of_found found
  obtain ⟨outcome, after, grown, operations, silent, -⟩ := handshake.operations_answering announced
  rw [ran, since_append reads.suffix_journal grown, bytesWritten_append, reads.bytesWritten_since,
    operations]
  change handshake.response :: bytesWritten after = _
  rw [silent]

/-- A device that has announced itself once or more, behind bytes that do not start an
announcement, is answered, and the handshake succeeds if the device echoes the answer. The
announcements and the echo are read, with the delays between them, and what comes behind the echo
is left. -/
theorem execute_despite_announcements
    (handshake : Handshake)
    (line : Line)
    (announced answered : UInt8)
    (garbage startupRest responseRest tail : List UInt8)
    (count : Nat)
    (reply : List LineEvent)
    (timed : handshake.settings.readTimeout.positive = true)
    (drains : handshake.settings.drainTimeout.positive = true)
    (startup : handshake.startup = announced :: startupRest)
    (response : handshake.response = answered :: responseRest)
    (distinct : answered ∉ handshake.startup)
    (other : announced ∉ garbage)
    (once : 0 < count)
    (waiting : Carries line.incoming (garbage ++ handshake.announcements count))
    (answers : (line.device.answer handshake.response).1 = .ok reply)
    (echoes : Carries reply (handshake.response ++ tail)) :
    let run := handshake.execute line
    run.1 = .ok .success ∧
    bytesWritten (line.since run.2) = [handshake.response] ∧
    Carries run.2.incoming tail ∧
    ∃ echo, reply = echo ++ run.2.incoming ∧ Carries echo handshake.response := by
  intro run
  obtain ⟨more, rfl⟩ : ∃ more, count = more + 1 := ⟨count - 1, by omega⟩
  have first : Carries line.incoming
      (garbage ++ announced :: startupRest ++ handshake.announcements more) := by
    rw [← startup, List.append_assoc]
    exact waiting
  obtain ⟨between, found, unheard⟩ := PatternFound.of_carries timed drains first other
  rw [← startup] at found
  have met : handshake.Answered line garbage (between ++ reply) :=
    .taken found (Prod.ext answers rfl)
  have second : Carries (between ++ reply)
      (handshake.announcements more ++ answered :: responseRest ++ tail) := by
    rw [← response, List.append_assoc]
    exact unheard.append echoes
  obtain ⟨unread, echoed, left⟩ :=
    PatternFound.of_carries timed drains second (not_mem_announcements distinct more)
  rw [← response] at echoed
  obtain ⟨later, ran, incoming, -⟩ := execute_of_confirmed met echoed
  have ends : run = (.ok .success, later) := ran
  have written : bytesWritten (line.since run.2) = [handshake.response] :=
    bytesWritten_of_found found
  refine ⟨congrArg Prod.fst ends, written, ?_⟩
  rw [ends, incoming, response]
  rw [response] at echoes
  exact ⟨left, echoes.echo_taken left echoed.suffix⟩

/-- A device that is met in the middle of an announcement, that announces itself twice more before
it is answered, and that sends one byte behind the echo, all of it with delays. -/
theorem execute_despite_announcements_joined_late :
    let handshake : Handshake := { startup := [0x43, 0x4C, 0x3F], response := [0x48, 0x49] }
    let reply : List LineEvent := [.gap, .byte 0x48, .byte 0x49, .silence, .byte 0x01]
    let line := (quiet [] (.answer [.gap] (some {}) [.silence, .byte 0x01])).append
      (LineEvent.bytes [0x4C, 0x3F, 0x43] ++ .gap ::
        LineEvent.bytes [0x4C, 0x3F, 0x43, 0x4C] ++ [.silence, .byte 0x3F, .gap])
    let run := handshake.execute line
    Carries line.incoming ([0x4C, 0x3F] ++ handshake.announcements 2) ∧
      (line.device.answer handshake.response).1 = .ok reply ∧
      Carries reply (handshake.response ++ [0x01]) ∧
      run.1 = .ok .success ∧
      bytesWritten (line.since run.2) = [handshake.response] ∧
      Carries run.2.incoming [0x01] ∧
      ∃ echo, reply = echo ++ run.2.incoming ∧ Carries echo handshake.response := by
  intro handshake reply line
  have waiting : Carries line.incoming ([0x4C, 0x3F] ++ handshake.announcements 2) := rfl
  have answers : (line.device.answer handshake.response).1 = .ok reply := rfl
  have echoes : Carries reply (handshake.response ++ [0x01]) := rfl
  refine ⟨waiting, answers, echoes, ?_⟩
  exact execute_despite_announcements handshake line 0x43 0x48 [0x4C, 0x3F] [0x4C, 0x3F] [0x49]
    [0x01] 2 reply rfl rfl rfl rfl (by decide) (by decide) (by decide) waiting answers echoes

end Handshake

end DeviceLink
