import DeviceLink.Line.Verified
import DeviceLink.Proofs.Line.Operations

/-!
# Failures of a line

A failed write, a failed question for data and a read that fails by anything
but the end of the stream or a timeout are failures of the line. An exchange
stops at the first of them and ends with its cause; without one it ends with a
value. Exchanges of this kind are closed under sequencing, so each exchange
over a line is of this kind because its parts are.
-/

namespace DeviceLink

namespace LineOperation

/-- The cause for which an operation stops an exchange. A read that finds the end of the stream
or times out is an answer and no failure. -/
def failure? : LineOperation → Option LinkError
  | .asked (.error cause) => some cause
  | .read (.error .endOfStream) => none
  | .read (.error (.timeout _)) => none
  | .read (.error cause) => some cause
  | .wrote _ (.error cause) => some cause
  | _ => none

end LineOperation

namespace Line

variable {α β : Type}

/-- How operations end an exchange: with a value when none of them failed, and else with the
cause of the last one, which is the only one that failed. -/
inductive EndsWith : List LineOperation → Except Fault α → Prop
  | value
      {operations : List LineOperation}
      {value : α}
      (sound : ∀ operation ∈ operations, operation.failure? = none) :
      EndsWith operations (.ok value)
  | failure
      {earlier : List LineOperation}
      {last : LineOperation}
      {cause : LinkError}
      (sound : ∀ operation ∈ earlier, operation.failure? = none)
      (failed : last.failure? = some cause) :
      EndsWith (earlier ++ [last]) (.error (.error cause))

namespace EndsWith

variable {first second : List LineOperation} {value : α} {outcome : Except Fault α}
  {cause : LinkError}

theorem sound_of_value
    (ends : EndsWith first (.ok value)) :
    ∀ operation ∈ first, operation.failure? = none := by
  cases ends with
  | value sound => exact sound

/-- What follows operations without a failure decides how both end. -/
theorem append
    (sound : ∀ operation ∈ first, operation.failure? = none)
    (ends : EndsWith second outcome) :
    EndsWith (first ++ second) outcome := by
  cases ends with
  | value soundAgain => exact .value (List.forall_mem_append.2 ⟨sound, soundAgain⟩)
  | failure soundAgain failed =>
      rw [← List.append_assoc]
      exact .failure (List.forall_mem_append.2 ⟨sound, soundAgain⟩) failed

/-- A failure ends operations in the same way whatever value was expected of them. -/
theorem of_failure
    (ends : EndsWith first (.error (.error cause) : Except Fault α)) :
    EndsWith first (.error (.error cause) : Except Fault β) := by
  cases ends with
  | failure sound failed => exact .failure sound failed

/-- Operations do not end with a breakdown. -/
theorem fault_eq
    {fault : Fault}
    (ends : EndsWith first (.error fault : Except Fault α)) :
    ∃ cause, fault = .error cause := by
  cases ends with
  | failure _ _ => exact ⟨_, rfl⟩

/-- A single operation without a failure. -/
theorem single
    {operation : LineOperation}
    (sound : operation.failure? = none) :
    EndsWith [operation] (.ok value) :=
  .value (List.forall_mem_singleton.2 sound)

/-- A single operation that failed. -/
theorem single_failure
    {operation : LineOperation}
    (failed : operation.failure? = some cause) :
    EndsWith [operation] (.error (.error cause) : Except Fault α) := by
  change EndsWith ([] ++ [operation]) _
  exact .failure (by simp) failed

end EndsWith

/-- An exchange that stops at the first failure of the line and ends with its cause. -/
def FailStop (exchange : Exchange Line α) : Prop :=
  ∀ line : Line, ∃ operations,
    (exchange line).2.journal = operations.reverse ++ line.journal ∧
    EndsWith operations (exchange line).1

namespace FailStop

/-! ## Sequencing -/

theorem pure (value : α) : FailStop (Pure.pure value) :=
  fun _ => ⟨[], rfl, .value (by simp)⟩

/-- One exchange after another, as long as the second one is of this kind for the values with
which the first one can end. -/
theorem bind_of_values
    {first : Exchange Line α}
    {next : α → Exchange Line β}
    (firstStops : FailStop first)
    (nextStops : ∀ line value later, first line = (.ok value, later) → FailStop (next value)) :
    FailStop (first >>= next) := by
  intro line
  obtain ⟨operations, grown, ends⟩ := firstStops line
  cases ran : first line with
  | mk outcome later =>
      rw [ran] at grown ends
      cases outcome with
      | ok value =>
          rw [Exchange.bind_of_ok ran]
          obtain ⟨more, grownAgain, endsAgain⟩ := nextStops line value later ran later
          refine ⟨operations ++ more, ?_, endsAgain.append ends.sound_of_value⟩
          rw [grownAgain, grown, List.reverse_append, List.append_assoc]
      | error fault =>
          rw [Exchange.bind_of_error ran]
          obtain ⟨cause, rfl⟩ := ends.fault_eq
          exact ⟨operations, grown, ends.of_failure⟩

theorem bind
    {first : Exchange Line α}
    {next : α → Exchange Line β}
    (firstStops : FailStop first)
    (nextStops : ∀ value, FailStop (next value)) :
    FailStop (first >>= next) :=
  bind_of_values firstStops fun _ value _ _ => nextStops value

/-! ## Operations of the device -/

theorem available : FailStop Line.available := by
  intro line
  unfold Line.available
  cases lookAhead line.endsWhenDrained line.incoming with
  | mk outcome rest =>
      cases outcome with
      | ok ready => exact ⟨[.asked (.ok ready)], rfl, .single rfl⟩
      | error cause => exact ⟨[.asked (.error cause)], rfl, .single_failure rfl⟩

/-- Of the ways in which a read can fail, the end of the stream and a timeout are answers. -/
theorem takeByte : FailStop Line.takeByte := by
  intro line
  unfold Line.takeByte readByte
  cases readAhead line.endsWhenDrained line.incoming with
  | mk outcome rest =>
      cases outcome with
      | ok value => exact ⟨[.read (.ok value)], rfl, .single rfl⟩
      | error cause =>
          cases cause with
          | endOfStream => exact ⟨[.read (.error .endOfStream)], rfl, .single rfl⟩
          | timeout what => exact ⟨[.read (.error (.timeout what))], rfl, .single rfl⟩
          | _ => exact ⟨[.read (.error _)], rfl, .single_failure rfl⟩

theorem write (bytes : List UInt8) : FailStop (Line.write bytes) := by
  intro line
  unfold Line.write
  cases line.device.answer bytes with
  | mk outcome device =>
      cases outcome with
      | ok events => exact ⟨[.wrote bytes (.ok ())], rfl, .single rfl⟩
      | error cause => exact ⟨[.wrote bytes (.error cause)], rfl, .single_failure rfl⟩

/-! ## Reading and draining -/

theorem pollWithin (polls : Nat) : FailStop (Line.pollWithin polls) := by
  induction polls with
  | zero => exact .pure Poll.expired
  | succ polls inductionHypothesis =>
      refine .bind .available fun ready => ?_
      cases ready with
      | false => exact inductionHypothesis
      | true =>
          refine .bind .takeByte fun taken => ?_
          cases taken with
          | some outcome => exact .pure outcome
          | none => exact inductionHypothesis

theorem poll (budget : Duration) : FailStop (Line.poll budget) :=
  fun line => pollWithin (line.pollsAllowed budget) line

theorem readMore
    (budget : Duration)
    (taken : List UInt8)
    (count : Nat) :
    FailStop (Line.readMore budget taken count) := by
  induction count generalizing taken with
  | zero => exact .pure (Reading.complete taken.reverse)
  | succ count inductionHypothesis =>
      refine .bind (.poll budget) fun outcome => ?_
      cases outcome with
      | byte value => exact inductionHypothesis (value :: taken)
      | expired => exact .pure (Reading.cut taken.reverse)
      | ended => exact .pure Reading.ended

theorem read (settings : LineSettings) (count : Nat) : FailStop (Line.read settings count) :=
  .readMore settings.readTimeout [] count

theorem discardMore (discarded count : Nat) : FailStop (Line.discardMore discarded count) := by
  induction count generalizing discarded with
  | zero => exact .pure discarded
  | succ count inductionHypothesis =>
      refine .bind .available fun ready => ?_
      cases ready with
      | false => exact .pure discarded
      | true =>
          refine .bind .takeByte fun taken => ?_
          split
          · exact inductionHypothesis (discarded + 1)
          · exact .pure discarded

theorem drain (settings : LineSettings) : FailStop (Line.drain settings) := by
  intro line
  unfold Line.drain
  split
  · exact discardMore 0 (line.incoming.length + 1) line
  · exact pure 0 line

/-! ## Verified writes and awaited patterns -/

theorem matchBytes
    (budget : Duration)
    (command : List UInt8) :
    FailStop (Line.matchBytes budget command) := by
  induction command with
  | nil => exact .pure true
  | cons expected command inductionHypothesis =>
      refine .bind (.poll budget) fun outcome => ?_
      cases outcome with
      | byte value =>
          dsimp only
          split
          · exact inductionHypothesis
          · exact .pure false
      | expired => exact .pure false
      | ended => exact .pure false

theorem writeUntilEchoed
    (settings : LineSettings)
    (command : List UInt8)
    (attempts : Nat) :
    FailStop (Line.writeUntilEchoed settings command attempts) := by
  induction attempts with
  | zero => exact .pure false
  | succ attempts inductionHypothesis =>
      refine .bind (.write command) fun _ => ?_
      refine .bind (.matchBytes settings.readTimeout command) fun echoed => ?_
      cases echoed with
      | true => exact .pure true
      | false => exact .bind (.drain settings) fun _ => inductionHypothesis

theorem writeVerified
    (settings : LineSettings)
    (command : List UInt8) :
    FailStop (Line.writeVerified settings command) :=
  .writeUntilEchoed settings command settings.attempts

theorem seekWithin
    (budget : Duration)
    (target : UInt8)
    (count : Nat) :
    FailStop (Line.seekWithin budget target count) := by
  induction count with
  | zero => exact .pure false
  | succ count inductionHypothesis =>
      refine .bind (.poll budget) fun outcome => ?_
      cases outcome with
      | byte value =>
          dsimp only
          split
          · exact .pure true
          · exact inductionHypothesis
      | expired => exact .pure false
      | ended => exact .pure false

theorem seek (budget : Duration) (target : UInt8) : FailStop (Line.seek budget target) :=
  fun line => seekWithin budget target (line.incoming.length + 1) line

theorem awaitPattern
    (settings : LineSettings)
    (pattern : List UInt8) :
    FailStop (Line.awaitPattern settings pattern) := by
  cases pattern with
  | nil => exact .pure true
  | cons first rest =>
      refine .bind (.seek settings.drainTimeout first) fun found => ?_
      cases found with
      | true => exact .matchBytes settings.readTimeout rest
      | false => exact .pure false

end FailStop

end Line

end DeviceLink
