import DeviceLink.Proofs.Line.Delays
import Mathlib.Data.List.TakeWhile

/-!
# Resynchronised writes

A drain with time takes plain bytes to the last one. If a device answers with
plain bytes only, every attempt of a verified write on it therefore starts on a
line on which nothing waits, and compares the command with the reply to its own
write. The write is verified by the first reply that starts with the command.
-/

namespace DeviceLink

/-- The device answers one write of a command after another with these runs of bytes. -/
def LineDevice.AnswersWith
    (device : LineDevice)
    (command : List UInt8)
    (replies : List (List UInt8)) : Prop :=
  device.answers (List.replicate replies.length command) =
    replies.map fun reply => .ok (LineEvent.bytes reply)

namespace LineDevice.AnswersWith

variable {device : LineDevice} {command reply : List UInt8} {replies : List (List UInt8)}

/-- The next write gets the first reply, and the writes after it get the others. -/
theorem answer (answers : device.AnswersWith command (reply :: replies)) :
    ∃ later, device.answer command = (.ok (LineEvent.bytes reply), later) ∧
      later.AnswersWith command replies := by
  obtain ⟨first, others⟩ := List.cons.inj answers
  exact ⟨(device.answer command).2, Prod.ext first rfl, others⟩

end LineDevice.AnswersWith

namespace Line

section PlainBytes

variable {budget : Duration} {settings : LineSettings} {line : Line}
  {command reply values : List UInt8}

/-- A comparison ends at its first poll if that does not meet the expected byte. -/
theorem matchBytes_of_other
    {outcome : Except LinkError Poll}
    {unread : List LineEvent}
    {expected : UInt8}
    (met : meet budget.positive line.endsWhenDrained line.incoming = (outcome, unread))
    (differs : outcome ≠ .ok (.byte expected))
    (command : List UInt8) :
    ∃ later,
      matchBytes budget (expected :: command) line =
        (outcomeOf (outcome.map fun _ => false), later) ∧
      line.Reads (arrival outcome) unread later := by
  have nothing : Delivers budget.positive line.endsWhenDrained line.incoming [] line.incoming :=
    .nothing line.incoming
  exact matchBytes_of_meet nothing met differs

/-- A comparison with plain bytes matches if they start with the command. It takes bytes from
the front, and no more than the command if it matches. -/
theorem matchBytes_bytes
    (budget : Duration)
    (command : List UInt8)
    (waiting : line.incoming = LineEvent.bytes reply) :
    ∃ read left later,
      matchBytes budget command line = (.ok (command.isPrefixOf reply), later) ∧
      line.Reads read (LineEvent.bytes left) later ∧ reply = read ++ left ∧
      (command.isPrefixOf reply = true → read = command) := by
  induction command generalizing line reply with
  | nil =>
      refine ⟨[], reply, line, rfl, ?_, rfl, fun _ => rfl⟩
      rw [← waiting]
      exact .refl line
  | cons expected command inductionHypothesis =>
      cases reply with
      | nil =>
          obtain ⟨poll, met, noByte⟩ : ∃ poll,
              meet budget.positive line.endsWhenDrained line.incoming = (.ok poll, []) ∧
                arrival (.ok poll) = [] := by
            rw [waiting]
            cases line.endsWhenDrained with
            | true => exact ⟨.ended, rfl, rfl⟩
            | false => exact ⟨.expired, rfl, rfl⟩
          have differs : (.ok poll : Except LinkError Poll) ≠ .ok (.byte expected) := by
            rintro ⟨⟩
            cases noByte
          obtain ⟨later, compared, reads⟩ := matchBytes_of_other met differs command
          rw [noByte] at reads
          exact ⟨[], [], later, compared, reads, rfl, fun whole => absurd whole Bool.false_ne_true⟩
      | cons value reply =>
          have met : meet budget.positive line.endsWhenDrained line.incoming =
              (.ok (.byte value), LineEvent.bytes reply) := by
            rw [waiting]
            rfl
          by_cases same : value = expected
          · subst same
            obtain ⟨next, polled, reads⟩ := poll_of_meet met
            obtain ⟨read, left, later, compared, readsOn, parts, whole⟩ :=
              inductionHypothesis reads.incoming_eq
            refine ⟨value :: read, left, later, ?_, reads.trans readsOn, ?_, ?_⟩
            · rw [matchBytes, Exchange.bind_of_ok polled]
              simpa using compared
            · rw [parts]
              rfl
            · simpa using whole
          · have differs : (.ok (.byte value) : Except LinkError Poll) ≠ .ok (.byte expected) := by
              rintro ⟨⟩
              exact same rfl
            obtain ⟨later, compared, reads⟩ := matchBytes_of_other met differs command
            have unequal : (expected :: command).isPrefixOf (value :: reply) = false := by
              rw [List.isPrefixOf_cons_cons, beq_false_of_ne (Ne.symm same), Bool.false_and]
            rw [unequal]
            refine ⟨[value], reply, later, compared, reads, rfl, ?_⟩
            exact fun whole => absurd whole Bool.false_ne_true

/-- Discarding takes plain bytes to the last one. -/
theorem discardMore_bytes
    (waiting : line.incoming = LineEvent.bytes values)
    (discarded : Nat) :
    ∃ later,
      discardMore discarded (values.length + 1) line = (.ok (discarded + values.length), later) ∧
      line.Reads values [] later := by
  induction values generalizing line discarded with
  | nil =>
      obtain ⟨incoming, ends, device, journal⟩ := line
      subst waiting
      cases ends with
      | true => exact ⟨_, rfl, [.asked (.ok true), .read (.error .endOfStream)], rfl, rfl, rfl⟩
      | false => exact ⟨_, rfl, [.asked (.ok false)], rfl, rfl, rfl⟩
  | cons value values inductionHypothesis =>
      have taken := line.reads_event (.byte value) (LineEvent.bytes values)
      obtain ⟨later, ran, reads⟩ := inductionHypothesis taken.incoming_eq (discarded + 1)
      refine ⟨later, ?_, taken.trans reads⟩
      rw [List.length_cons, discardMore_of_byte waiting, ← Nat.add_assoc, Nat.add_right_comm]
      exact ran

/-- A drain with time takes plain bytes to the last one. -/
theorem drain_bytes
    (timed : settings.drainTimeout.positive = true)
    (waiting : line.incoming = LineEvent.bytes values) :
    ∃ later, drain settings line = (.ok values.length, later) ∧ line.Reads values [] later := by
  obtain ⟨later, ran, reads⟩ := discardMore_bytes waiting 0
  refine ⟨later, ?_, reads⟩
  have count : line.incoming.length = values.length := by
    rw [waiting]
    exact List.length_map _
  rw [drain, if_pos timed, count, ran, Nat.zero_add]

end PlainBytes

namespace StartsAttempt

variable {settings : LineSettings} {command : List UInt8} {line start : Line} {number : Nat}

/-- A verified write goes on where its attempts start. -/
theorem writeUntilEchoed_eq
    (starts : StartsAttempt settings command line number start)
    (attempts : Nat) :
    writeUntilEchoed settings command (number + attempts) line =
      writeUntilEchoed settings command attempts start := by
  induction starts generalizing attempts with
  | first => rw [Nat.zero_add]
  | next earlier wrote missed ran inductionHypothesis =>
      rw [Nat.add_assoc, Nat.add_comm 1, inductionHypothesis, writeUntilEchoed,
        Exchange.bind_of_ok wrote, Exchange.bind_of_ok missed]
      exact Exchange.bind_of_ok ran _

variable {reply : List UInt8} {replies missed : List (List UInt8)}

/-- Behind an attempt on a quiet line whose reply does not start with the command, the next
attempt starts on a quiet line. -/
theorem next_of_missed
    (timed : settings.drainTimeout.positive = true)
    (starts : StartsAttempt settings command line number start)
    (quiet : start.incoming = [])
    (answers : start.device.AnswersWith command (reply :: replies))
    (other : command.isPrefixOf reply = false) :
    ∃ last, StartsAttempt settings command line (number + 1) last ∧
      last.incoming = [] ∧ last.device.AnswersWith command replies := by
  obtain ⟨device, answered, behind⟩ := answers.answer
  obtain ⟨written, wrote, incoming, -, keeps, -⟩ := write_of_taken answered
  rw [quiet, List.nil_append] at incoming
  obtain ⟨read, left, failed, compared, reads, -, -⟩ :=
    matchBytes_bytes settings.readTimeout command incoming
  rw [other] at compared
  obtain ⟨last, ran, drained⟩ := drain_bytes timed reads.incoming_eq
  refine ⟨last, starts.next wrote compared ran, drained.incoming_eq, ?_⟩
  rw [drained.device_eq, reads.device_eq, keeps]
  exact behind

/-- Behind attempts whose replies do not start with the command, the next attempt starts on a
quiet line. -/
theorem behind_missed
    (timed : settings.drainTimeout.positive = true)
    (starts : StartsAttempt settings command line number start)
    (quiet : start.incoming = [])
    (answers : start.device.AnswersWith command (missed ++ replies))
    (other : ∀ reply ∈ missed, command.isPrefixOf reply = false) :
    ∃ last, StartsAttempt settings command line (number + missed.length) last ∧
      last.incoming = [] ∧ last.device.AnswersWith command replies := by
  induction missed generalizing number start with
  | nil => exact ⟨start, starts, quiet, answers⟩
  | cons reply missed inductionHypothesis =>
      obtain ⟨next, startsNext, quietNext, answersNext⟩ :=
        starts.next_of_missed timed quiet answers (other reply List.mem_cons_self)
      rw [List.length_cons, Nat.add_comm missed.length, ← Nat.add_assoc]
      exact inductionHypothesis startsNext quietNext answersNext
        fun reply member => other reply (List.mem_cons_of_mem _ member)

/-- An attempt on a quiet line whose reply starts with the command verifies the write, and leaves
what follows the command in the reply. -/
theorem verified_of_echoed
    {unread : List UInt8}
    (starts : StartsAttempt settings command line number start)
    (quiet : start.incoming = [])
    (answers : start.device.AnswersWith command ((command ++ unread) :: replies))
    (attempts : Nat) :
    ∃ later,
      writeUntilEchoed settings command (number + (attempts + 1)) line = (.ok true, later) ∧
      bytesWritten (line.since later) = List.replicate (number + 1) command ∧
      later.incoming = LineEvent.bytes unread := by
  obtain ⟨device, answered, -⟩ := answers.answer
  obtain ⟨written, wrote, incoming, -⟩ := write_of_taken answered
  rw [quiet, List.nil_append] at incoming
  have echo : command.isPrefixOf (command ++ unread) = true :=
    List.isPrefixOf_iff_prefix.2 (List.prefix_append _ _)
  obtain ⟨read, left, later, compared, reads, parts, whole⟩ :=
    matchBytes_bytes settings.readTimeout command incoming
  rw [whole echo] at parts
  rw [echo] at compared
  refine ⟨later, ?_, starts.bytesWritten_of_matched wrote compared, ?_⟩
  · rw [starts.writeUntilEchoed_eq, writeUntilEchoed, Exchange.bind_of_ok wrote,
      Exchange.bind_of_ok compared]
    rfl
  · rw [reads.incoming_eq, List.append_cancel_left parts]

end StartsAttempt

section Replies

variable {settings : LineSettings} {command : List UInt8} {line : Line}
  {replies : List (List UInt8)}

/-- Behind the leading replies that do not start with a command stands one that does, if they are
not all of the replies. -/
theorem drop_leading_missed
    (spare : (replies.takeWhile fun reply => !command.isPrefixOf reply).length < replies.length) :
    ∃ unread rest,
      replies.drop (replies.takeWhile fun reply => !command.isPrefixOf reply).length =
        (command ++ unread) :: rest := by
  induction replies with
  | nil => exact absurd spare (Nat.lt_irrefl 0)
  | cons reply replies inductionHypothesis =>
      cases echo : command.isPrefixOf reply with
      | true =>
          obtain ⟨unread, rfl⟩ := List.isPrefixOf_iff_prefix.1 echo
          refine ⟨unread, replies, ?_⟩
          rw [List.takeWhile_cons_of_neg (by simp)]
          rfl
      | false =>
          rw [List.takeWhile_cons_of_pos (by simp [echo]), List.length_cons] at spare ⊢
          exact inductionHypothesis (Nat.lt_of_succ_lt_succ spare)

/-- As long as no reply starts with the command, each attempt starts on a quiet line, and the
replies before it are used up. -/
theorem startsAttempt_behind_missed
    (timed : settings.drainTimeout.positive = true)
    (quiet : line.incoming = [])
    (answers : line.device.AnswersWith command replies)
    {index : Nat}
    (within : index ≤ (replies.takeWhile fun reply => !command.isPrefixOf reply).length) :
    ∃ start, StartsAttempt settings command line index start ∧
      start.incoming = [] ∧ start.device.AnswersWith command (replies.drop index) := by
  have front : replies.take index <+:
      replies.takeWhile fun reply => !command.isPrefixOf reply :=
    List.prefix_of_prefix_length_le (List.take_prefix _ _) (List.takeWhile_prefix _)
      ((List.length_take_le _ _).trans within)
  have size : (replies.take index).length = index :=
    List.length_take_of_le (within.trans (List.takeWhile_prefix _).length_le)
  have other : ∀ reply ∈ replies.take index, command.isPrefixOf reply = false := by
    intro reply member
    simpa using List.mem_takeWhile_imp (front.subset member)
  rw [← List.take_append_drop index replies] at answers
  obtain ⟨start, starts, rest⟩ := StartsAttempt.first.behind_missed timed quiet answers other
  rw [size, Nat.zero_add] at starts
  exact ⟨start, starts, rest⟩

end Replies

/-- On a quiet line whose device answers with plain bytes, a verified write with time to drain
makes one write for each reply that does not start with the command, and one more. If it may make
that many, it is verified, and what follows the command in the last reply is left unread; if not,
it is given up after all of its writes, and nothing is left. Each attempt starts on a quiet line
and compares the reply to its own write. -/
theorem writeVerified_resynchronises
    (settings : LineSettings)
    (command : List UInt8)
    (line : Line)
    (replies : List (List UInt8))
    (timed : settings.drainTimeout.positive = true)
    (quiet : line.incoming = [])
    (count : replies.length = max 1 settings.maxRetries.toNat)
    (answers : line.device.AnswersWith command replies) :
    let run := writeVerified settings command line
    let missed := replies.takeWhile fun reply => !command.isPrefixOf reply
    (missed.length < max 1 settings.maxRetries.toNat →
      run.1 = .ok true ∧
      bytesWritten (line.since run.2) = List.replicate (missed.length + 1) command ∧
      ∃ unread, replies[missed.length]? = some (command ++ unread) ∧
        run.2.incoming = LineEvent.bytes unread) ∧
    (max 1 settings.maxRetries.toNat ≤ missed.length →
      run.1 = .ok false ∧
      bytesWritten (line.since run.2) =
        List.replicate (max 1 settings.maxRetries.toNat) command ∧
      run.2.incoming = []) ∧
    (∀ index reply, index ≤ missed.length → replies[index]? = some reply →
      ∃ start written, StartsAttempt settings command line index start ∧
        start.incoming = [] ∧ write command start = (.ok (), written) ∧
        written.incoming = LineEvent.bytes reply) := by
  intro run missed
  have attempts_eq : settings.attempts = max 1 settings.maxRetries.toNat := Nat.max_comm _ _
  refine ⟨?_, ?_, ?_⟩
  · intro spare
    obtain ⟨last, starts, quietLast, answersLast⟩ :=
      startsAttempt_behind_missed timed quiet answers (Nat.le_refl missed.length)
    obtain ⟨unread, rest, behind⟩ := drop_leading_missed (count ▸ spare)
    obtain ⟨more, enough⟩ : ∃ more, settings.attempts = missed.length + (more + 1) :=
      ⟨settings.attempts - missed.length - 1, by omega⟩
    rw [behind] at answersLast
    obtain ⟨later, ran, written, incoming⟩ :=
      starts.verified_of_echoed quietLast answersLast more
    rw [← enough] at ran
    have ends : run = (.ok true, later) := ran
    rw [ends]
    refine ⟨rfl, written, unread, ?_, incoming⟩
    rw [← List.head?_drop, behind]
    rfl
  · intro exhausted
    have all : missed.length = settings.attempts := by
      have shorter : missed.length ≤ replies.length := (List.takeWhile_prefix _).length_le
      omega
    obtain ⟨last, starts, quietLast, -⟩ :=
      startsAttempt_behind_missed timed quiet answers (Nat.le_refl missed.length)
    have ran := starts.writeUntilEchoed_eq 0
    rw [Nat.add_zero, all] at ran
    have ends : run = (.ok false, last) := ran
    rw [ends, ← attempts_eq, ← all]
    exact ⟨rfl, starts.bytesWritten_eq.2, quietLast⟩
  · intro index reply within found
    obtain ⟨last, starts, quietLast, answersLast⟩ :=
      startsAttempt_behind_missed timed quiet answers within
    rw [List.drop_eq_getElem?_toList_append, found] at answersLast
    obtain ⟨device, answered, -⟩ := answersLast.answer
    obtain ⟨written, wrote, incoming, -⟩ := write_of_taken answered
    rw [quietLast, List.nil_append] at incoming
    exact ⟨last, written, starts, quietLast, wrote, incoming⟩

/-- A reply that is too short, one with the command in the middle of it and one that differs at
the second byte are drained; the fourth reply is the echo, with one byte behind it. -/
theorem writeVerified_resynchronises_at_fourth :
    let command : List UInt8 := [0x05, 0x06]
    let replies : List (List UInt8) :=
      [[0x05], [0xEE, 0x05, 0x06, 0x01], [0x05, 0x07, 0x05, 0x06], [0x05, 0x06, 0x01], []]
    let device : LineDevice :=
      .replying (replies.map fun reply => .answer (LineEvent.bytes reply) none []) .silent
    let line : Line := { incoming := [], endsWhenDrained := true, device := device }
    let run := writeVerified {} command line
    line.device.AnswersWith command replies ∧
      run.1 = .ok true ∧
      bytesWritten (line.since run.2) = List.replicate 4 command ∧
      ∃ unread, replies[3]? = some (command ++ unread) ∧
        run.2.incoming = LineEvent.bytes unread := by
  intro command replies device line
  have answers : line.device.AnswersWith command replies := rfl
  have missed : (replies.takeWhile fun reply => !command.isPrefixOf reply).length = 3 := rfl
  have recovers := (writeVerified_resynchronises {} command line replies rfl rfl rfl answers).1
  rw [missed] at recovers
  refine ⟨answers, ?_⟩
  exact recovers (by decide)

end Line

end DeviceLink
