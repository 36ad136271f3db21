import DeviceLink.Line.Verified
import DeviceLink.Proofs.Line.Delivery

/-!
# Verified writes

A verified write is a sequence of attempts. Each attempt writes the command,
compares what the line delivers with it, and drains the line when they differ;
the next attempt starts on the drained line. The write is verified by the
first attempt whose comparison reads the command, and it is given up when all
of its attempts missed.
-/

namespace DeviceLink

/-- Why a comparison with a command failed: what the line delivered was the start of the
command, and then came another byte, the end, or the end of the read budget. -/
inductive EchoMiss
    (patient ends : Bool)
    (command : List UInt8)
    (events unread : List LineEvent) : Prop
  | differs
      {matched remaining : List UInt8}
      {expected value : UInt8}
      {between : List LineEvent}
      (parts : command = matched ++ expected :: remaining)
      (delivered : Line.Delivers patient ends events matched between)
      (met : Line.meet patient ends between = (.ok (.byte value), unread))
      (other : value ≠ expected)
  | ended
      {matched remaining : List UInt8}
      {expected : UInt8}
      {between : List LineEvent}
      (parts : command = matched ++ expected :: remaining)
      (delivered : Line.Delivers patient ends events matched between)
      (met : Line.meet patient ends between = (.ok .ended, unread))
  | expired
      {matched remaining : List UInt8}
      {expected : UInt8}
      {between : List LineEvent}
      (parts : command = matched ++ expected :: remaining)
      (delivered : Line.Delivers patient ends events matched between)
      (met : Line.meet patient ends between = (.ok .expired, unread))

/-- A miss behind a byte that matched. -/
theorem EchoMiss.cons
    {patient ends : Bool}
    {command : List UInt8}
    {events between unread : List LineEvent}
    {value : UInt8}
    (first : Line.meet patient ends events = (.ok (.byte value), between))
    (miss : EchoMiss patient ends command between unread) :
    EchoMiss patient ends (value :: command) events unread := by
  cases miss with
  | differs parts delivered met other =>
      subst parts
      exact .differs (List.cons_append).symm (.byte first delivered) met other
  | ended parts delivered met =>
      subst parts
      exact .ended (List.cons_append).symm (.byte first delivered) met
  | expired parts delivered met =>
      subst parts
      exact .expired (List.cons_append).symm (.byte first delivered) met

/-- One attempt of a verified write: whether the device took the write, and the line after
the write, after the comparison and after the drain. -/
structure EchoAttempt where
  /-- The device has taken the write. -/
  accepted : Bool
  /-- The line after the write. -/
  written : Line
  /-- The line after the comparison. -/
  compared : Line
  /-- The line after the drain. -/
  drained : Line

namespace EchoAttempt

/-- The comparison read the command, byte for byte, and no byte beyond it. -/
def Echoed (command : List UInt8) (attempt : EchoAttempt) : Prop :=
  attempt.accepted = true ∧
    Line.bytesRead (attempt.written.since attempt.compared) = command

/-- The comparison failed on what the line delivered after the write. -/
def Missed (settings : LineSettings) (command : List UInt8) (attempt : EchoAttempt) : Prop :=
  attempt.accepted = true ∧
    EchoMiss settings.readTimeout.positive attempt.written.endsWhenDrained command
      attempt.written.incoming attempt.compared.incoming

end EchoAttempt

namespace Line

/-- The attempt that starts on a line. -/
def attempt (settings : LineSettings) (command : List UInt8) (line : Line) : EchoAttempt :=
  let (outcome, written) := write command line
  let compared := (matchBytes settings.readTimeout command written).2
  { accepted := outcome.isOk
    written := written
    compared := compared
    drained := (drain settings compared).2 }

/-- The attempts of a verified write by their number: each starts where the last one ended. -/
def attemptAt (settings : LineSettings) (command : List UInt8) : Nat → Line → EchoAttempt
  | 0, line => line.attempt settings command
  | index + 1, line =>
      attemptAt settings command index (line.attempt settings command).drained

/-- How a comparison with a command ends: which bytes it reads and which events are left. -/
inductive Comparison (patient ends : Bool) (command : List UInt8) (events : List LineEvent) :
    Except Fault Bool → List UInt8 → List LineEvent → Prop
  | matched
      {unread : List LineEvent} :
      Comparison patient ends command events (.ok true) command unread
  | missed
      {bytes : List UInt8}
      {unread : List LineEvent}
      (unequal : bytes ≠ command)
      (miss : EchoMiss patient ends command events unread) :
      Comparison patient ends command events (.ok false) bytes unread
  | broken
      {fault : Fault}
      {bytes : List UInt8}
      {unread : List LineEvent}
      (unequal : bytes ≠ command) :
      Comparison patient ends command events (.error fault) bytes unread

/-- A comparison goes on behind a byte that matched. -/
theorem Comparison.cons
    {patient ends : Bool}
    {command bytes : List UInt8}
    {events between unread : List LineEvent}
    {outcome : Except Fault Bool}
    {value : UInt8}
    (first : meet patient ends events = (.ok (.byte value), between))
    (comparison : Comparison patient ends command between outcome bytes unread) :
    Comparison patient ends (value :: command) events outcome (value :: bytes) unread := by
  cases comparison with
  | matched => exact .matched
  | missed unequal miss =>
      refine .missed ?_ (miss.cons first)
      exact fun equal => unequal (List.tail_eq_of_cons_eq equal)
  | broken unequal =>
      refine .broken ?_
      exact fun equal => unequal (List.tail_eq_of_cons_eq equal)

/-- Comparing takes what the line delivers, up to the first difference. -/
theorem matchBytes_comparison
    (budget : Duration)
    (command : List UInt8)
    (line : Line) :
    ∃ outcome bytes unread later,
      matchBytes budget command line = (outcome, later) ∧
      line.Reads bytes unread later ∧
      Comparison budget.positive line.endsWhenDrained command line.incoming
        outcome bytes unread := by
  induction command generalizing line with
  | nil => exact ⟨.ok true, [], line.incoming, line, rfl, .refl line, .matched⟩
  | cons expected command inductionHypothesis =>
      have short : [] ≠ expected :: command := (List.cons_ne_nil _ _).symm
      obtain ⟨next, polled, reads⟩ := poll_meet budget line
      cases met : meet budget.positive line.endsWhenDrained line.incoming with
      | mk outcome between =>
          rw [met] at polled reads
          cases outcome with
          | error cause =>
              refine ⟨_, [], between, next, Exchange.bind_of_error polled _, reads, ?_⟩
              exact .broken short
          | ok poll =>
              rw [matchBytes, Exchange.bind_of_ok polled]
              cases poll with
              | byte value =>
                  by_cases same : value = expected
                  · subst same
                    obtain ⟨outcome, bytes, unread, later, compared, readsOn, comparison⟩ :=
                      inductionHypothesis next
                    rw [reads.incoming_eq, reads.endsWhenDrained_eq] at comparison
                    refine ⟨outcome, value :: bytes, unread, later, ?_, reads.trans readsOn,
                      comparison.cons met⟩
                    simp only [if_true]
                    exact compared
                  · refine ⟨.ok false, [value], between, next, ?_, reads, .missed ?_ ?_⟩
                    · simp only [if_neg same]
                      rfl
                    · exact fun equal => same (List.head_eq_of_cons_eq equal)
                    · exact .differs (List.nil_append _).symm (.nothing _) met same
              | expired =>
                  refine ⟨.ok false, [], between, next, rfl, reads, .missed short ?_⟩
                  exact .expired (List.nil_append _).symm (.nothing _) met
              | ended =>
                  refine ⟨.ok false, [], between, next, rfl, reads, .missed short ?_⟩
                  exact .ended (List.nil_append _).symm (.nothing _) met

/-- The run of a verified write, attempt by attempt: how many attempts it has, how many writes
it makes, where it starts, and how and where it ends. -/
inductive EchoRun (settings : LineSettings) (command : List UInt8) :
    Nat → Nat → Line → Except Fault Bool → Line → Prop
  | exhausted (line : Line) : EchoRun settings command 0 0 line (.ok false) line
  | broken
      {attempts : Nat}
      {line later : Line}
      {fault : Fault}
      (unechoed : ¬ (line.attempt settings command).Echoed command)
      (grown : line.journal <:+ later.journal)
      (written : bytesWritten (line.since later) = [command]) :
      EchoRun settings command (attempts + 1) 1 line (.error fault) later
  | echoed
      {attempts : Nat}
      {line : Line}
      (echoed : (line.attempt settings command).Echoed command)
      (grown : line.journal <:+ (line.attempt settings command).compared.journal)
      (written :
        bytesWritten (line.since (line.attempt settings command).compared) = [command]) :
      EchoRun settings command (attempts + 1) 1 line (.ok true)
        (line.attempt settings command).compared
  | missed
      {attempts writes : Nat}
      {line later : Line}
      {outcome : Except Fault Bool}
      (unechoed : ¬ (line.attempt settings command).Echoed command)
      (missed : (line.attempt settings command).Missed settings command)
      (grown : line.journal <:+ (line.attempt settings command).drained.journal)
      (written :
        bytesWritten (line.since (line.attempt settings command).drained) = [command])
      (next : EchoRun settings command attempts writes
        (line.attempt settings command).drained outcome later) :
      EchoRun settings command (attempts + 1) (writes + 1) line outcome later

/-! ## How an attempt ends -/

section Attempt

variable {settings : LineSettings} {command bytes : List UInt8} {attempts : Nat}
  {line written compared later : Line} {unread : List LineEvent} {fault : Fault}

/-- Reading behind a write adds no write to the one that was made. -/
theorem bytesWritten_since_of_reads
    {accepted : Except Fault Unit}
    (wrote : write command line = (accepted, written))
    (reads : written.Reads bytes unread later) :
    line.journal <:+ later.journal ∧ bytesWritten (line.since later) = [command] := by
  have grown := suffix_journal_write command line
  have alone := bytesWritten_since_write command line
  rw [wrote] at grown alone
  refine ⟨grown.trans reads.suffix_journal, ?_⟩
  rw [since_append grown reads.suffix_journal, bytesWritten_append, alone,
    reads.bytesWritten_since]
  rfl

/-- The parts of an attempt whose write the device took. -/
theorem attempt_of_write
    {outcome : Except Fault Bool}
    (wrote : write command line = (.ok (), written))
    (ran : matchBytes settings.readTimeout command written = (outcome, compared)) :
    line.attempt settings command =
      ⟨true, written, compared, (drain settings compared).2⟩ := by
  simp [attempt, wrote, ran, Except.isOk, Except.toBool]

/-- An attempt whose write the device took is echoed when its comparison reads the command. -/
theorem echoed_iff
    {outcome : Except Fault Bool}
    (wrote : write command line = (.ok (), written))
    (ran : matchBytes settings.readTimeout command written = (outcome, compared))
    (reads : written.Reads bytes unread compared) :
    (line.attempt settings command).Echoed command ↔ bytes = command := by
  rw [attempt_of_write wrote ran, EchoAttempt.Echoed, reads.bytesRead_since]
  exact and_iff_right rfl

/-- A refused write ends the run. -/
theorem EchoRun.of_refused (wrote : write command line = (.error fault, written)) :
    EchoRun settings command (attempts + 1) 1 line (.error fault) written := by
  obtain ⟨grown, alone⟩ := bytesWritten_since_of_reads wrote (.refl written)
  refine .broken ?_ grown alone
  rintro ⟨accepted, -⟩
  simp [attempt, wrote, Except.isOk, Except.toBool] at accepted

/-- A comparison that reads the command ends the run. -/
theorem EchoRun.of_matched
    (wrote : write command line = (.ok (), written))
    (ran : matchBytes settings.readTimeout command written = (.ok true, compared))
    (reads : written.Reads command unread compared) :
    EchoRun settings command (attempts + 1) 1 line (.ok true) compared := by
  have made := attempt_of_write wrote ran
  have since := bytesWritten_since_of_reads wrote reads
  have run : EchoRun settings command (attempts + 1) 1 line (.ok true)
      (line.attempt settings command).compared := by
    refine .echoed ((echoed_iff wrote ran reads).mpr rfl) ?_ ?_
    · rw [made]
      exact since.1
    · rw [made]
      exact since.2
  rw [made] at run
  exact run

/-- A miss leaves the rest of the run to the attempts that are left. -/
theorem EchoRun.of_missed
    {writes : Nat}
    {rest : Line}
    {count : Nat}
    {outcome : Except Fault Bool}
    (wrote : write command line = (.ok (), written))
    (ran : matchBytes settings.readTimeout command written = (.ok false, compared))
    (reads : written.Reads bytes unread compared)
    (unequal : bytes ≠ command)
    (miss : EchoMiss settings.readTimeout.positive written.endsWhenDrained command
      written.incoming unread)
    (drained : drain settings compared = (.ok count, rest))
    (next : EchoRun settings command attempts writes rest outcome later) :
    EchoRun settings command (attempts + 1) (writes + 1) line outcome later := by
  have made := attempt_of_write wrote ran
  obtain ⟨skipped, left, readsOn⟩ := ReadsOnly.drain settings compared
  have since := bytesWritten_since_of_reads wrote (reads.trans readsOn)
  rw [drained] at made since
  refine .missed (mt (echoed_iff wrote ran reads).mp unequal) ?_ ?_ ?_ ?_
  · rw [made]
    refine ⟨rfl, ?_⟩
    rw [reads.incoming_eq]
    exact miss
  · rw [made]
    exact since.1
  · rw [made]
    exact since.2
  · rw [made]
    exact next

end Attempt

/-- A verified write runs attempt by attempt. -/
theorem writeUntilEchoed_run
    (settings : LineSettings)
    (command : List UInt8)
    (attempts : Nat)
    (line : Line) :
    ∃ writes outcome later,
      writeUntilEchoed settings command attempts line = (outcome, later) ∧
      EchoRun settings command attempts writes line outcome later := by
  induction attempts generalizing line with
  | zero => exact ⟨0, .ok false, line, rfl, .exhausted line⟩
  | succ attempts inductionHypothesis =>
      cases wrote : write command line with
      | mk accepted written =>
          cases accepted with
          | error fault =>
              exact ⟨1, _, _, Exchange.bind_of_error wrote _, .of_refused wrote⟩
          | ok done =>
              obtain ⟨outcome, bytes, unread, compared, ran, reads, comparison⟩ :=
                matchBytes_comparison settings.readTimeout command written
              rw [writeUntilEchoed, Exchange.bind_of_ok wrote]
              cases comparison with
              | matched =>
                  rw [Exchange.bind_of_ok ran]
                  exact ⟨1, _, _, rfl, .of_matched wrote ran reads⟩
              | broken unequal =>
                  rw [Exchange.bind_of_error ran]
                  obtain ⟨grown, alone⟩ := bytesWritten_since_of_reads wrote reads
                  refine ⟨1, _, _, rfl, .broken ?_ grown alone⟩
                  exact mt (echoed_iff wrote ran reads).mp unequal
              | missed unequal miss =>
                  rw [Exchange.bind_of_ok ran]
                  cases drained : drain settings compared with
                  | mk count rest =>
                      cases count with
                      | error fault =>
                          obtain ⟨skipped, left, readsOn⟩ := ReadsOnly.drain settings compared
                          rw [drained] at readsOn
                          obtain ⟨grown, alone⟩ :=
                            bytesWritten_since_of_reads wrote (reads.trans readsOn)
                          refine ⟨1, _, _, Exchange.bind_of_error drained _,
                            .broken ?_ grown alone⟩
                          exact mt (echoed_iff wrote ran reads).mp unequal
                      | ok count =>
                          obtain ⟨writes, outcome, later, rerun, next⟩ :=
                            inductionHypothesis rest
                          refine ⟨writes + 1, outcome, later, ?_, ?_⟩
                          · exact (Exchange.bind_of_ok drained _).trans rerun
                          · exact .of_missed wrote ran reads unequal miss drained next

/-! ## What holds of every run -/

namespace EchoRun

variable {settings : LineSettings} {command : List UInt8} {attempts writes : Nat}
  {line later : Line} {outcome : Except Fault Bool}

theorem writes_le (run : EchoRun settings command attempts writes line outcome later) :
    writes ≤ attempts := by
  induction run with
  | exhausted line => exact Nat.le_refl 0
  | broken => omega
  | echoed => omega
  | missed _ _ _ _ _ inductionHypothesis => omega

theorem writes_pos
    (run : EchoRun settings command attempts writes line outcome later)
    (allowed : 0 < attempts) :
    0 < writes := by
  cases run with
  | exhausted => exact allowed
  | broken => exact Nat.one_pos
  | echoed => exact Nat.one_pos
  | missed => exact Nat.succ_pos _

theorem suffix_journal (run : EchoRun settings command attempts writes line outcome later) :
    line.journal <:+ later.journal := by
  induction run with
  | exhausted line => exact List.suffix_refl _
  | broken _ grown _ => exact grown
  | echoed _ grown _ => exact grown
  | missed _ _ grown _ _ inductionHypothesis => exact grown.trans inductionHypothesis

/-- Every write of a run is the command. -/
theorem bytesWritten_eq (run : EchoRun settings command attempts writes line outcome later) :
    bytesWritten (line.since later) = List.replicate writes command := by
  induction run with
  | exhausted line =>
      rw [since_self]
      rfl
  | broken _ _ written => exact written
  | echoed _ _ written => exact written
  | missed _ _ grown written next inductionHypothesis =>
      rw [since_append grown next.suffix_journal, bytesWritten_append, written,
        inductionHypothesis]
      rfl

/-- All attempts before the last write missed. -/
theorem missed_before
    (run : EchoRun settings command attempts writes line outcome later)
    {index : Nat}
    (before : index + 1 < writes) :
    (attemptAt settings command index line).Missed settings command := by
  induction run generalizing index with
  | exhausted line => omega
  | broken => omega
  | echoed => omega
  | missed _ missed _ _ _ inductionHypothesis =>
      cases index with
      | zero => exact missed
      | succ index => exact inductionHypothesis (Nat.lt_of_succ_lt_succ before)

/-- A verified run ends with the comparison of its last attempt, which is echoed. -/
theorem echoed_last
    (run : EchoRun settings command attempts writes line outcome later)
    (verified : outcome = .ok true) :
    ∃ last, writes = last + 1 ∧ (attemptAt settings command last line).Echoed command ∧
      later = (attemptAt settings command last line).compared := by
  induction run with
  | exhausted line => cases verified
  | broken => cases verified
  | echoed echoed _ _ => exact ⟨0, rfl, echoed, rfl⟩
  | missed _ _ _ _ _ inductionHypothesis =>
      obtain ⟨last, count, echoed, ends⟩ := inductionHypothesis verified
      exact ⟨last + 1, congrArg (· + 1) count, echoed, ends⟩

/-- A run whose last attempt is echoed is verified. -/
theorem verified_of_echoed
    (run : EchoRun settings command attempts writes line outcome later)
    {last : Nat}
    (count : writes = last + 1)
    (echoed : (attemptAt settings command last line).Echoed command) :
    outcome = .ok true := by
  induction run generalizing last with
  | exhausted line => cases count
  | broken unechoed _ _ =>
      cases count
      exact absurd echoed unechoed
  | echoed => rfl
  | missed unechoed _ _ _ _ inductionHypothesis =>
      cases last with
      | zero => exact absurd echoed unechoed
      | succ last => exact inductionHypothesis (Nat.succ.inj count) echoed

/-- A run that is given up used all of its attempts, and all of them missed. -/
theorem missed_all
    (run : EchoRun settings command attempts writes line outcome later)
    (givenUp : outcome = .ok false) :
    writes = attempts ∧
      ∀ index < writes, (attemptAt settings command index line).Missed settings command := by
  induction run with
  | exhausted line =>
      refine ⟨rfl, ?_⟩
      intro index before
      omega
  | broken => cases givenUp
  | echoed => cases givenUp
  | missed _ missed _ _ _ inductionHypothesis =>
      obtain ⟨count, behind⟩ := inductionHypothesis givenUp
      refine ⟨congrArg (· + 1) count, ?_⟩
      intro index before
      cases index with
      | zero => exact missed
      | succ index => exact behind index (Nat.lt_of_succ_lt_succ before)

end EchoRun

/-- A verified write makes at most as many writes as it may, at least one, and each of them is
the command. It is verified exactly when the comparison behind the last write reads the command
and all earlier comparisons miss; then no byte beyond the echo is read. It is given up only when
it has made all of its writes and all comparisons missed. -/
theorem writeVerified_attempts
    (settings : LineSettings)
    (command : List UInt8)
    (line : Line) :
    let run := writeVerified settings command line
    let writes := bytesWritten (line.since run.2)
    let attempt := fun index => attemptAt settings command index line
    (∀ bytes ∈ writes, bytes = command) ∧
    0 < writes.length ∧ writes.length ≤ max 1 settings.maxRetries.toNat ∧
    (run.1 = .ok true ↔
      (attempt (writes.length - 1)).Echoed command ∧
        ∀ index < writes.length - 1, (attempt index).Missed settings command) ∧
    (run.1 = .ok true →
      run.2 = (attempt (writes.length - 1)).compared ∧
        bytesRead ((attempt (writes.length - 1)).written.since run.2) = command) ∧
    (run.1 = .ok false →
      writes.length = max 1 settings.maxRetries.toNat ∧
        ∀ index < writes.length, (attempt index).Missed settings command) := by
  intro run writes attempt
  obtain ⟨count, steps⟩ :
      ∃ count, EchoRun settings command settings.attempts count line run.1 run.2 := by
    obtain ⟨count, outcome, later, ran, steps⟩ :=
      writeUntilEchoed_run settings command settings.attempts line
    have ends : run = (outcome, later) := ran
    rw [ends]
    exact ⟨count, steps⟩
  have made : writes = List.replicate count command := steps.bytesWritten_eq
  have positive : 0 < count := steps.writes_pos settings.attempts_pos
  have attempts_eq : settings.attempts = max 1 settings.maxRetries.toNat := Nat.max_comm _ _
  rw [made, List.length_replicate, ← attempts_eq]
  refine ⟨fun bytes member => List.eq_of_mem_replicate member, positive, steps.writes_le,
    ⟨?_, ?_⟩, ?_, steps.missed_all⟩
  · intro verified
    obtain ⟨last, rfl, echoed, -⟩ := steps.echoed_last verified
    refine ⟨echoed, fun index before => steps.missed_before ?_⟩
    omega
  · rintro ⟨echoed, -⟩
    exact steps.verified_of_echoed (Nat.succ_pred_eq_of_pos positive).symm echoed
  · intro verified
    obtain ⟨last, rfl, echoed, ends⟩ := steps.echoed_last verified
    refine ⟨ends, ?_⟩
    rw [ends]
    exact echoed.2

end Line

end DeviceLink
