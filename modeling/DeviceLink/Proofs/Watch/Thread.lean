import DeviceLink.Watch.Pinger
import Mathlib.Logic.ExistsUnique

/-!
# The thread of a pinger

A pinger has a thread of its own. It rests, sends a ping, takes the answer into
account, and rests again. Its owner may stop it at any time; the thread sees
that when it rests, so that a ping that was sent is always answered. A loss is
noted first, and then the listener is told.

The failures that the pinger counts are the failed pings in a row at the end of
all pings so far. So the loss is declared exactly when a threshold of pings in
a row have failed, and nothing follows it.
-/

namespace DeviceLink

/-! ### Pings in a row -/

namespace Pinger

/-- The ping went wrong: it ended with an error, or with a response that is no success. -/
def Failed : StrategyResult → Prop
  | .ok response => response.isSuccess = false
  | .error _ => True

instance : DecidablePred Failed
  | .ok response => inferInstanceAs (Decidable (response.isSuccess = false))
  | .error _ => inferInstanceAs (Decidable True)

/-- The state of a connection that is lost with this ping. -/
def lossBy : StrategyResult → ConnectionState
  | .ok _ => .disconnected "ping failed"
  | .error cause => .disconnected cause.message

theorem lossBy_ne_connected (result : StrategyResult) : lossBy result ≠ .connected := by
  cases result with
  | ok response => simp [lossBy]
  | error cause => simp [lossBy]

/-- Number of failed pings in a row at the end of the first `count` pings. -/
def streak (outcomes : Nat → StrategyResult) : Nat → Nat
  | 0 => 0
  | count + 1 => if Failed (outcomes count) then streak outcomes count + 1 else 0

/-- The last `threshold` of the first `count` pings failed. -/
def FailedInARow (outcomes : Nat → StrategyResult) (threshold count : Nat) : Prop :=
  threshold ≤ count ∧
    ∀ index, count ≤ index + threshold → index < count → Failed (outcomes index)

variable {outcomes : Nat → StrategyResult} {threshold count : Nat}

theorem failedInARow_zero (outcomes : Nat → StrategyResult) (count : Nat) :
    FailedInARow outcomes 0 count := by
  refine ⟨Nat.zero_le _, ?_⟩
  intro index behind before
  omega

/-- One more ping makes a row longer exactly if it fails. -/
theorem failedInARow_succ :
    FailedInARow outcomes (threshold + 1) (count + 1) ↔
      Failed (outcomes count) ∧ FailedInARow outcomes threshold count := by
  constructor
  · rintro ⟨enough, row⟩
    refine ⟨row count (by omega) (by omega), by omega, ?_⟩
    intro index behind before
    exact row index (by omega) (by omega)
  · rintro ⟨failed, enough, row⟩
    refine ⟨by omega, ?_⟩
    intro index behind before
    by_cases last : index = count
    · rw [last]
      exact failed
    · exact row index (by omega) (by omega)

/-- A streak is as long as the pings in a row that failed. -/
theorem le_streak_iff :
    threshold ≤ streak outcomes count ↔ FailedInARow outcomes threshold count := by
  induction count generalizing threshold with
  | zero =>
      cases threshold with
      | zero => simp [failedInARow_zero]
      | succ threshold => simp [streak, FailedInARow]
  | succ count inductionHypothesis =>
      cases threshold with
      | zero => simp [failedInARow_zero]
      | succ threshold =>
          rw [failedInARow_succ, ← inductionHypothesis, streak]
          split
          next failed => simp [failed]
          next success => simp [success]

/-! ### Taking one ping into account -/

variable {pinger : Pinger} {result : StrategyResult}

theorem failure?_of_success (success : ¬ Failed result) : failure? result = none := by
  cases result with
  | ok response => simpa [failure?, Failed] using success
  | error cause => exact absurd trivial success

theorem failure?_of_failed (failed : Failed result) :
    ∃ reason, failure? result = some reason ∧ lossBy result = .disconnected reason := by
  cases result with
  | ok response =>
      have unsuccessful : response.isSuccess = false := failed
      exact ⟨"ping failed", by simp [failure?, unsuccessful], rfl⟩
  | error cause => exact ⟨cause.message, rfl, rfl⟩

/-- A ping ends the row of failures, continues it below the threshold, or loses the connection. -/
theorem observe_cases (pinger : Pinger) (result : StrategyResult) :
    (¬ Failed result ∧ pinger.observe result = { pinger with failures := 0 }) ∨
    (Failed result ∧ pinger.failures + 1 < pinger.threshold.toNat ∧
      pinger.observe result = { pinger with failures := pinger.failures + 1 }) ∨
    (Failed result ∧ pinger.threshold.toNat ≤ pinger.failures + 1 ∧
      pinger.observe result =
        { pinger with
          failures := pinger.failures + 1
          state := lossBy result
          heard := pinger.heard ++ [lossBy result] }) := by
  by_cases failed : Failed result
  · obtain ⟨reason, why, loss⟩ := failure?_of_failed failed
    by_cases reached : pinger.threshold.toNat ≤ pinger.failures + 1
    · refine .inr (.inr ⟨failed, reached, ?_⟩)
      simp only [observe, why, if_pos reached, loss]
    · refine .inr (.inl ⟨failed, Nat.lt_of_not_le reached, ?_⟩)
      simp only [observe, why, if_neg reached]
  · refine .inl ⟨failed, ?_⟩
    rw [observe, failure?_of_success failed]

end Pinger

/-! ### The thread and its owner -/

/-- Where the thread of a pinger is. -/
inductive PingerStage
  | resting
  | pinging
  | telling
  | ended
  deriving DecidableEq

/-- A step of the thread: the rest is over and a ping is sent, its answer is there, the listener is
told about the loss, or a stop is seen. Or the owner stops the thread, which dropping the pinger does
as well. -/
inductive PingerAction
  | send
  | answer
  | tell
  | leave
  | stop
  deriving DecidableEq

/-- A pinger with its thread, and the numbers of pings that were sent and answered. -/
structure PingerThread where
  /-- The pinger that the thread runs. -/
  pinger : Pinger
  /-- Where the thread is between two pings. -/
  stage : PingerStage := .resting
  /-- Somebody has asked the thread to stop. -/
  stopping : Bool := false
  /-- The number of pings that were sent. -/
  sent : Nat := 0
  /-- The number of pings that were answered. -/
  answered : Nat := 0

namespace PingerThread

open Pinger

/-- A thread before its first ping. -/
def start (settings : PingSettings) : PingerThread where
  pinger := { threshold := settings.failureThreshold }

/-- Take the answer to a ping into account. The listener does not hear of a loss yet. -/
def take (result : StrategyResult) (thread : PingerThread) : PingerThread :=
  let counted := thread.pinger.observe result
  { thread with
    pinger := { counted with heard := thread.pinger.heard }
    stage := if counted.isLost then .telling else .resting
    answered := thread.answered + 1 }

/-- Tell the listener about the state, and end. -/
def report (thread : PingerThread) : PingerThread :=
  { thread with
    pinger := { thread.pinger with heard := thread.pinger.heard ++ [thread.pinger.state] }
    stage := .ended }

/-- One step, absent where it is not the turn of the thread. The ping with number `index` has the
outcome `outcomes index`. -/
def step?
    (outcomes : Nat → StrategyResult)
    (thread : PingerThread) : PingerAction → Option PingerThread
  | .send =>
      if thread.stage = .resting ∧ thread.stopping = false then
        some { thread with stage := .pinging, sent := thread.sent + 1 }
      else none
  | .answer =>
      if thread.stage = .pinging then some (thread.take (outcomes thread.answered)) else none
  | .tell => if thread.stage = .telling then some thread.report else none
  | .leave =>
      if thread.stage = .resting ∧ thread.stopping = true then
        some { thread with stage := .ended }
      else none
  | .stop => some { thread with stopping := true }

/-- Steps in any order, absent where one of them is not its turn. -/
def run?
    (outcomes : Nat → StrategyResult) :
    List PingerAction → PingerThread → Option PingerThread
  | [], thread => some thread
  | action :: actions, thread => (thread.step? outcomes action).bind (run? outcomes actions)

variable {outcomes : Nat → StrategyResult} {threshold count : Nat} {thread later : PingerThread}
  {action : PingerAction} {actions : List PingerAction}

theorem run?_append (first second : List PingerAction) (thread : PingerThread) :
    run? outcomes (first ++ second) thread =
      (run? outcomes first thread).bind (run? outcomes second) := by
  induction first generalizing thread with
  | nil => rfl
  | cons action first inductionHypothesis =>
      simp only [List.cons_append, run?]
      cases thread.step? outcomes action with
      | none => rfl
      | some later => exact inductionHypothesis later

/-- What each step needs, and what it changes. -/
theorem step?_cases (stepped : thread.step? outcomes action = some later) :
    (action = .send ∧ thread.stage = .resting ∧ thread.stopping = false ∧
      later = { thread with stage := .pinging, sent := thread.sent + 1 }) ∨
    (action = .answer ∧ thread.stage = .pinging ∧
      later = thread.take (outcomes thread.answered)) ∨
    (action = .tell ∧ thread.stage = .telling ∧ later = thread.report) ∨
    (action = .leave ∧ thread.stage = .resting ∧ thread.stopping = true ∧
      later = { thread with stage := .ended }) ∨
    (action = .stop ∧ later = { thread with stopping := true }) := by
  cases action with
  | send =>
      obtain ⟨⟨resting, going⟩, made⟩ := Option.ite_none_right_eq_some.1 stepped
      exact .inl ⟨rfl, resting, going, (Option.some.inj made).symm⟩
  | answer =>
      obtain ⟨pinging, made⟩ := Option.ite_none_right_eq_some.1 stepped
      exact .inr (.inl ⟨rfl, pinging, (Option.some.inj made).symm⟩)
  | tell =>
      obtain ⟨telling, made⟩ := Option.ite_none_right_eq_some.1 stepped
      exact .inr (.inr (.inl ⟨rfl, telling, (Option.some.inj made).symm⟩))
  | leave =>
      obtain ⟨⟨resting, stopping⟩, made⟩ := Option.ite_none_right_eq_some.1 stepped
      exact .inr (.inr (.inr (.inl ⟨rfl, resting, stopping, (Option.some.inj made).symm⟩)))
  | stop => exact .inr (.inr (.inr (.inr ⟨rfl, (Option.some.inj stepped).symm⟩)))

/-- A thread that has not ended has exactly one step of its own. -/
theorem existsUnique_turn
    (outcomes : Nat → StrategyResult)
    (running : thread.stage ≠ .ended) :
    ∃! action, action ≠ .stop ∧ (thread.step? outcomes action).isSome = true := by
  cases stage : thread.stage with
  | resting =>
      cases stopping : thread.stopping with
      | false =>
          refine ⟨.send, by simp [step?, stage, stopping], ?_⟩
          rintro action ⟨own, possible⟩
          cases action <;> simp_all [step?]
      | true =>
          refine ⟨.leave, by simp [step?, stage, stopping], ?_⟩
          rintro action ⟨own, possible⟩
          cases action <;> simp_all [step?]
  | pinging =>
      refine ⟨.answer, by simp [step?, stage], ?_⟩
      rintro action ⟨own, possible⟩
      cases action <;> simp_all [step?]
  | telling =>
      refine ⟨.tell, by simp [step?, stage], ?_⟩
      rintro action ⟨own, possible⟩
      cases action <;> simp_all [step?]
  | ended => exact absurd stage running

/-! ### What holds in every run -/

/-- Nothing is lost so far, and the listener has heard nothing. -/
structure Unlost (threshold : Nat) (outcomes : Nat → StrategyResult) (thread : PingerThread) :
    Prop where
  /-- The failures in a row are too few for a loss. -/
  below : streak outcomes thread.answered < threshold
  /-- The connection counts as alive. -/
  state_eq : thread.pinger.state = .connected
  /-- The listener has heard nothing. -/
  heard_eq : thread.pinger.heard = []
  /-- The listener is not being told anything. -/
  silent : thread.stage ≠ .telling
  /-- The thread ends only when it was asked to stop. -/
  stopped : thread.stage = .ended → thread.stopping = true

/-- The connection was lost with the last ping, and the listener is told or was told of it. -/
structure Lost (threshold : Nat) (outcomes : Nat → StrategyResult) (thread : PingerThread) :
    Prop where
  /-- There was a ping. -/
  pinged : 0 < thread.answered
  /-- The failures in a row are as many as a loss takes. -/
  reached : streak outcomes thread.answered = threshold
  /-- The connection was lost with the last ping. -/
  state_eq : thread.pinger.state = lossBy (outcomes (thread.answered - 1))
  /-- The listener is being told of the loss, or was told of it once and the thread has ended. -/
  heard_eq : (thread.stage = .telling ∧ thread.pinger.heard = []) ∨
    (thread.stage = .ended ∧ thread.pinger.heard = [thread.pinger.state])

/-- The failures that are counted are those at the end of all pings so far, which were never so many
before the last one; and only the ping that the thread waits for is not answered. -/
structure Counting (threshold : Nat) (outcomes : Nat → StrategyResult) (thread : PingerThread) :
    Prop where
  /-- The threshold is that of the pinger. -/
  threshold_eq : thread.pinger.threshold.toNat = threshold
  /-- The pinger counts the failures at the end of all pings. -/
  failures_eq : thread.pinger.failures = streak outcomes thread.answered
  /-- At most the ping that the thread waits for is not answered. -/
  sent_eq : thread.sent = thread.answered + if thread.stage = .pinging then 1 else 0
  /-- The failures in a row were too few for a loss before the last ping. -/
  earlier : ∀ count < thread.answered, streak outcomes count < threshold
  /-- The connection is lost with the last ping or not at all. -/
  verdict : Unlost threshold outcomes thread ∨ Lost threshold outcomes thread

theorem counting_start
    {settings : PingSettings}
    (positive : 0 < settings.failureThreshold.toNat) :
    Counting settings.failureThreshold.toNat outcomes (start settings) where
  threshold_eq := rfl
  failures_eq := rfl
  sent_eq := rfl
  earlier := by simp [start]
  verdict := .inl
    { below := positive
      state_eq := rfl
      heard_eq := rfl
      silent := by simp [start]
      stopped := by simp [start] }

namespace Lost

theorem stage_cases (lost : Lost threshold outcomes thread) :
    thread.stage = .telling ∨ thread.stage = .ended :=
  lost.heard_eq.imp And.left And.left

theorem unheard_of_telling
    (lost : Lost threshold outcomes thread)
    (telling : thread.stage = .telling) :
    thread.pinger.heard = [] := by
  have noted := lost.heard_eq
  simpa [telling] using noted

/-- Behind a loss no ping is sent, and the state stays. -/
theorem step
    (lost : Lost threshold outcomes thread)
    (stepped : thread.step? outcomes action = some later) :
    later.sent = thread.sent ∧ later.pinger.state = thread.pinger.state := by
  have stages := lost.stage_cases
  obtain ⟨-, resting, -, -⟩ | ⟨-, pinging, -⟩ | ⟨-, -, rfl⟩ | ⟨-, resting, -, -⟩ | ⟨-, rfl⟩ :=
    step?_cases stepped
  · simp [resting] at stages
  · simp [pinging] at stages
  · exact ⟨rfl, rfl⟩
  · simp [resting] at stages
  · exact ⟨rfl, rfl⟩

end Lost

namespace Counting

theorem unlost_of_stage
    (counting : Counting threshold outcomes thread)
    (untold : thread.stage ≠ .telling)
    (running : thread.stage ≠ .ended) :
    Unlost threshold outcomes thread := by
  obtain unlost | lost := counting.verdict
  · exact unlost
  · obtain telling | ended := lost.stage_cases
    · exact absurd telling untold
    · exact absurd ended running

theorem unlost_of_resting
    (counting : Counting threshold outcomes thread)
    (resting : thread.stage = .resting) :
    Unlost threshold outcomes thread :=
  counting.unlost_of_stage (by simp [resting]) (by simp [resting])

theorem unlost_of_pinging
    (counting : Counting threshold outcomes thread)
    (pinging : thread.stage = .pinging) :
    Unlost threshold outcomes thread :=
  counting.unlost_of_stage (by simp [pinging]) (by simp [pinging])

theorem lost_of_telling
    (counting : Counting threshold outcomes thread)
    (telling : thread.stage = .telling) :
    Lost threshold outcomes thread := by
  obtain unlost | lost := counting.verdict
  · exact absurd telling unlost.silent
  · exact lost

/-- Where nothing was lost before, every row of failures so far was too short. -/
theorem earlier_of_unlost
    (counting : Counting threshold outcomes thread)
    (unlost : Unlost threshold outcomes thread) :
    ∀ count < thread.answered + 1, streak outcomes count < threshold := by
  intro count before
  by_cases last : count = thread.answered
  · rw [last]
    exact unlost.below
  · exact counting.earlier count (by omega)

/-- An answer ends the row of failures, continues it, or completes it. -/
theorem take
    (counting : Counting threshold outcomes thread)
    (pinging : thread.stage = .pinging) :
    Counting threshold outcomes (thread.take (outcomes thread.answered)) := by
  have unlost := counting.unlost_of_pinging pinging
  have connected := unlost.state_eq
  have below := unlost.below
  have sent : thread.sent = thread.answered + 1 := by
    rw [counting.sent_eq, if_pos pinging]
  have earlier := counting.earlier_of_unlost unlost
  have next : streak outcomes (thread.answered + 1) =
      if Failed (outcomes thread.answered) then streak outcomes thread.answered + 1 else 0 := rfl
  obtain ⟨success, counted⟩ | ⟨failed, short, counted⟩ | ⟨failed, reached, counted⟩ :=
    thread.pinger.observe_cases (outcomes thread.answered)
  · have taken : thread.take (outcomes thread.answered) =
        { thread with
          pinger := { thread.pinger with failures := 0 }
          stage := .resting
          answered := thread.answered + 1 } := by
      simp [PingerThread.take, counted, isLost, connected]
    rw [if_neg success] at next
    rw [taken]
    refine ⟨counting.threshold_eq, next.symm, sent, earlier, .inl ⟨?_, connected, unlost.heard_eq, ?_, ?_⟩⟩
    · simp only [next]
      omega
    · simp
    · simp
  · have taken : thread.take (outcomes thread.answered) =
        { thread with
          pinger := { thread.pinger with failures := thread.pinger.failures + 1 }
          stage := .resting
          answered := thread.answered + 1 } := by
      simp [PingerThread.take, counted, isLost, connected]
    rw [if_pos failed] at next
    rw [counting.threshold_eq, counting.failures_eq] at short
    rw [taken]
    refine ⟨counting.threshold_eq, ?_, sent, earlier, .inl ⟨?_, connected, unlost.heard_eq, ?_, ?_⟩⟩
    · simp only [next, counting.failures_eq]
    · simp only [next]
      omega
    · simp
    · simp
  · have taken : thread.take (outcomes thread.answered) =
        { thread with
          pinger :=
            { thread.pinger with
              failures := thread.pinger.failures + 1
              state := lossBy (outcomes thread.answered) }
          stage := .telling
          answered := thread.answered + 1 } := by
      simp [PingerThread.take, counted, isLost, lossBy_ne_connected]
    rw [if_pos failed] at next
    rw [counting.threshold_eq, counting.failures_eq] at reached
    rw [taken]
    refine ⟨counting.threshold_eq, ?_, sent, earlier, .inr ⟨Nat.succ_pos _, ?_, rfl, ?_⟩⟩
    · simp only [next, counting.failures_eq]
    · simp only [next]
      omega
    · exact .inl ⟨rfl, unlost.heard_eq⟩

theorem step
    (counting : Counting threshold outcomes thread)
    (stepped : thread.step? outcomes action = some later) :
    Counting threshold outcomes later := by
  have sent := counting.sent_eq
  obtain ⟨-, resting, -, rfl⟩ | ⟨-, pinging, rfl⟩ | ⟨-, telling, rfl⟩ |
    ⟨-, resting, stopping, rfl⟩ | ⟨-, rfl⟩ := step?_cases stepped
  · -- A ping is sent.
    have unlost := counting.unlost_of_resting resting
    rw [resting] at sent
    refine ⟨counting.threshold_eq, counting.failures_eq, ?_, counting.earlier, .inl ?_⟩
    · simpa using sent
    · exact ⟨unlost.below, unlost.state_eq, unlost.heard_eq, by simp, by simp⟩
  · exact counting.take pinging
  · -- The listener is told.
    have lost := counting.lost_of_telling telling
    rw [telling] at sent
    refine ⟨counting.threshold_eq, counting.failures_eq, sent, counting.earlier, .inr ?_⟩
    refine ⟨lost.pinged, lost.reached, lost.state_eq, .inr ⟨rfl, ?_⟩⟩
    simp [report, lost.unheard_of_telling telling]
  · -- A stop is seen.
    have unlost := counting.unlost_of_resting resting
    rw [resting] at sent
    refine ⟨counting.threshold_eq, counting.failures_eq, sent, counting.earlier, .inl ?_⟩
    exact ⟨unlost.below, unlost.state_eq, unlost.heard_eq, by simp, fun _ => stopping⟩
  · -- The owner stops the thread.
    refine ⟨counting.threshold_eq, counting.failures_eq, sent, counting.earlier, ?_⟩
    obtain unlost | lost := counting.verdict
    · exact .inl ⟨unlost.below, unlost.state_eq, unlost.heard_eq, unlost.silent, fun _ => rfl⟩
    · exact .inr ⟨lost.pinged, lost.reached, lost.state_eq, lost.heard_eq⟩

theorem run
    (counting : Counting threshold outcomes thread)
    (ran : run? outcomes actions thread = some later) :
    Counting threshold outcomes later := by
  induction actions generalizing thread with
  | nil =>
      cases ran
      exact counting
  | cons action actions inductionHypothesis =>
      obtain ⟨next, stepped, rest⟩ := Option.bind_eq_some_iff.1 ran
      exact inductionHypothesis (counting.step stepped) rest

/-- No more failures are counted than the threshold. -/
theorem failures_le (counting : Counting threshold outcomes thread) :
    thread.pinger.failures ≤ threshold := by
  rw [counting.failures_eq]
  obtain unlost | lost := counting.verdict
  · exact Nat.le_of_lt unlost.below
  · exact Nat.le_of_eq lost.reached

/-- A ping whose answer is still to come finds room in the count for its failure. -/
theorem failures_lt_of_pinging
    (counting : Counting threshold outcomes thread)
    (pinging : thread.stage = .pinging) :
    thread.pinger.failures < threshold := by
  rw [counting.failures_eq]
  exact (counting.unlost_of_pinging pinging).below

/-- A row of failures of full length ends with the last ping, which loses the connection. -/
theorem lost_of_row
    (counting : Counting threshold outcomes thread)
    (within : count ≤ thread.answered)
    (row : FailedInARow outcomes threshold count) :
    Lost threshold outcomes thread ∧ thread.answered = count := by
  have long := le_streak_iff.2 row
  have last : thread.answered = count := by
    apply Nat.le_antisymm _ within
    apply Nat.le_of_not_lt
    intro before
    have short := counting.earlier count before
    omega
  obtain unlost | lost := counting.verdict
  · have below := unlost.below
    rw [last] at below
    omega
  · exact ⟨lost, last⟩

theorem row_of_lost (lost : Lost threshold outcomes thread) :
    FailedInARow outcomes threshold thread.answered :=
  le_streak_iff.1 (Nat.le_of_eq lost.reached.symm)

theorem unlost_of_no_row
    (counting : Counting threshold outcomes thread)
    (none : ∀ count ≤ thread.answered, ¬ FailedInARow outcomes threshold count) :
    Unlost threshold outcomes thread := by
  obtain unlost | lost := counting.verdict
  · exact unlost
  · exact absurd (row_of_lost lost) (none _ (Nat.le_refl _))

/-- The connection is lost exactly after a row of failures of full length. -/
theorem lost_iff (counting : Counting threshold outcomes thread) :
    thread.pinger.state ≠ .connected ↔
      ∃ count ≤ thread.answered, FailedInARow outcomes threshold count := by
  constructor
  · intro disconnected
    obtain unlost | lost := counting.verdict
    · exact absurd unlost.state_eq disconnected
    · exact ⟨thread.answered, Nat.le_refl _, row_of_lost lost⟩
  · rintro ⟨count, within, row⟩
    rw [(counting.lost_of_row within row).1.state_eq]
    exact lossBy_ne_connected _

/-- At the end of the thread the listener was told exactly if the connection is lost. -/
theorem told_iff_of_ended
    (counting : Counting threshold outcomes thread)
    (ended : thread.stage = .ended) :
    thread.pinger.heard ≠ [] ↔ thread.pinger.state ≠ .connected := by
  obtain unlost | lost := counting.verdict
  · simp [unlost.heard_eq, unlost.state_eq]
  · have heard := lost.heard_eq
    simp only [ended, reduceCtorEq, false_and, true_and, false_or] at heard
    simp [heard, lost.state_eq, lossBy_ne_connected]

/-- No ping is on its way when the connection is lost. -/
theorem sent_of_lost
    (counting : Counting threshold outcomes thread)
    (lost : Lost threshold outcomes thread) :
    thread.sent = thread.answered := by
  rw [counting.sent_eq]
  obtain telling | ended := lost.stage_cases
  · simp [telling]
  · simp [ended]

/-- Behind a loss no ping is sent, and the state stays. -/
theorem run_of_lost
    (counting : Counting threshold outcomes thread)
    (disconnected : thread.pinger.state ≠ .connected)
    (ran : run? outcomes actions thread = some later) :
    later.sent = thread.sent ∧ later.pinger.state = thread.pinger.state := by
  induction actions generalizing thread with
  | nil =>
      cases ran
      exact ⟨rfl, rfl⟩
  | cons action actions inductionHypothesis =>
      obtain ⟨next, stepped, rest⟩ := Option.bind_eq_some_iff.1 ran
      obtain ⟨count, within, row⟩ := counting.lost_iff.1 disconnected
      obtain ⟨sent, state⟩ := (counting.lost_of_row within row).1.step stepped
      rw [← sent, ← state]
      apply inductionHypothesis (counting.step stepped) _ rest
      rw [state]
      exact disconnected

/-- A loss that was noted is told, by the thread alone. -/
theorem tells_of_lost (lost : Lost threshold outcomes thread) :
    ∃ more later, .stop ∉ more ∧ run? outcomes more thread = some later ∧
      later.pinger.heard = [lossBy (outcomes (later.answered - 1))] := by
  obtain ⟨telling, unheard⟩ | ⟨ended, heard⟩ := lost.heard_eq
  · refine ⟨[.tell], thread.report, by simp, ?_, ?_⟩
    · simp [run?, step?, telling]
    · simp [report, unheard, lost.state_eq]
  · refine ⟨[], thread, by simp, rfl, ?_⟩
    rw [heard, lost.state_eq]

/-- Unless it is stopped or lost, the thread goes on by itself to the next answer. -/
theorem answers_of_unlost
    (unlost : Unlost threshold outcomes thread)
    (going : thread.stopping = false) :
    ∃ more later, .stop ∉ more ∧ run? outcomes more thread = some later ∧
      later.stopping = false ∧ later.answered = thread.answered + 1 := by
  cases stage : thread.stage with
  | resting =>
      let asked : PingerThread := { thread with stage := .pinging, sent := thread.sent + 1 }
      refine ⟨[.send, .answer], asked.take (outcomes thread.answered), by simp, ?_, going, rfl⟩
      simp [run?, step?, stage, going, asked]
  | pinging =>
      refine ⟨[.answer], thread.take (outcomes thread.answered), by simp, ?_, going, rfl⟩
      simp [run?, step?, stage]
  | telling => exact absurd stage unlost.silent
  | ended =>
      have stopped := unlost.stopped stage
      rw [going] at stopped
      cases stopped

/-- Unless it is stopped, the thread goes on by itself up to the end of a row of failures, and tells
the loss. -/
theorem tells_of_row
    (counting : Counting threshold outcomes thread)
    (going : thread.stopping = false)
    (row : FailedInARow outcomes threshold count) :
    ∃ more later, .stop ∉ more ∧ run? outcomes more thread = some later ∧
      later.pinger.heard = [lossBy (outcomes (later.answered - 1))] := by
  -- The answers up to the end of the row come one by one, or there is a loss before.
  induction left : count - thread.answered generalizing thread with
  | zero => exact tells_of_lost (counting.lost_of_row (by omega) row).1
  | succ left inductionHypothesis =>
      obtain unlost | lost := counting.verdict
      · obtain ⟨first, next, own, ran, onward, answered⟩ := answers_of_unlost unlost going
        obtain ⟨second, later, others, rest, heard⟩ :=
          inductionHypothesis (counting.run ran) onward (by omega)
        refine ⟨first ++ second, later, by simp [own, others], ?_, heard⟩
        rw [run?_append, ran]
        exact rest
      · exact tells_of_lost lost

end Counting

/-! ### The loss -/

theorem threshold_withThreshold (settings : PingSettings) (requested : UInt32) :
    (settings.withThreshold requested).failureThreshold.toNat = max 1 requested.toNat := by
  unfold PingSettings.withThreshold
  split
  next zero => simp [zero]
  next positive =>
    have one : requested.toNat ≠ 0 := by
      intro none
      apply positive
      apply UInt32.toNat_inj.1
      exact none
    simp only
    omega

/-- A pinger declares a loss once, and exactly when it should: in every run of its thread, with a stop
at any moment, the connection is lost exactly after a row of failed pings as long as the threshold
among the pings that the thread got answers to before it saw a stop. Then the first such row ends with
the last ping that was sent; the state is the loss by that ping, and the listener hears of it, next and
last of all. Otherwise the state stays connected, the listener hears nothing, and only a stop ends the
thread. No failure is too many for the counter. A thread that has not ended has exactly one step of its
own, and unless it is stopped its own steps lead to the loss. -/
theorem loss_declared_once
    {settings : PingSettings}
    {requested : UInt32}
    (ran : run? outcomes actions (start (settings.withThreshold requested)) = some thread) :
    let threshold := max 1 requested.toNat
    (thread.pinger.state ≠ .connected ↔
      ∃ count ≤ thread.answered, FailedInARow outcomes threshold count) ∧
    (thread.stage = .ended → (thread.pinger.heard ≠ [] ↔
      ∃ count ≤ thread.answered, FailedInARow outcomes threshold count)) ∧
    (∀ count ≤ thread.answered, FailedInARow outcomes threshold count →
      thread.answered = count ∧ thread.sent = count ∧
      thread.pinger.state = lossBy (outcomes (count - 1)) ∧
      (thread.stage = .telling ∧ thread.pinger.heard = [] ∨
        thread.stage = .ended ∧ thread.pinger.heard = [lossBy (outcomes (count - 1))]) ∧
      ∀ more later, run? outcomes more thread = some later →
        later.sent = thread.sent ∧ later.pinger.state = thread.pinger.state) ∧
    ((∀ count ≤ thread.answered, ¬ FailedInARow outcomes threshold count) →
      thread.pinger.state = .connected ∧ thread.pinger.heard = [] ∧
      (thread.stage = .ended → thread.stopping = true)) ∧
    (thread.pinger.failures < UInt32.size ∧
      (thread.stage = .pinging → thread.pinger.failures + 1 < UInt32.size)) ∧
    (thread.stage ≠ .ended →
      ∃! action, action ≠ .stop ∧ (thread.step? outcomes action).isSome = true) ∧
    ∀ count, FailedInARow outcomes threshold count → thread.stopping = false →
      ∃ more later, .stop ∉ more ∧ run? outcomes more thread = some later ∧
        later.pinger.heard = [lossBy (outcomes (later.answered - 1))] := by
  have positive : 0 < (settings.withThreshold requested).failureThreshold.toNat := by
    rw [threshold_withThreshold]
    omega
  have limit := (settings.withThreshold requested).failureThreshold.toNat_lt_size
  have begun : Counting _ outcomes (start (settings.withThreshold requested)) :=
    counting_start positive
  have counting := begun.run ran
  rw [threshold_withThreshold] at counting limit
  intro threshold
  refine ⟨counting.lost_iff, ?_, ?_, ?_, ⟨?_, ?_⟩, existsUnique_turn outcomes, ?_⟩
  · intro ended
    rw [← counting.lost_iff]
    exact counting.told_iff_of_ended ended
  · intro count within row
    obtain ⟨lost, last⟩ := counting.lost_of_row within row
    have state := lost.state_eq
    have heard := lost.heard_eq
    have disconnected := counting.lost_iff.2 ⟨count, within, row⟩
    rw [state] at heard
    rw [last] at state heard
    refine ⟨last, ?_, state, heard, ?_⟩
    · rw [counting.sent_of_lost lost, last]
    · intro more later onward
      exact counting.run_of_lost disconnected onward
  · intro none
    have unlost := counting.unlost_of_no_row none
    exact ⟨unlost.state_eq, unlost.heard_eq, unlost.stopped⟩
  · exact Nat.lt_of_le_of_lt counting.failures_le limit
  · intro pinging
    exact Nat.lt_of_le_of_lt (counting.failures_lt_of_pinging pinging) limit
  · intro count row going
    exact counting.tells_of_row going row

/-- A success ends the first row of failures. The second row reaches the threshold with a ping that is
on its way when the owner stops the thread. -/
theorem loss_declared_once_during_stop :
    let outcomes : Nat → StrategyResult
      | 1 => .ok .success
      | 2 => .error (.timeout "no reply")
      | _ => .ok .writeFailed
    let actions : List PingerAction :=
      [.send, .answer, .send, .answer, .send, .answer, .send, .stop, .answer, .tell]
    ∃ thread, run? outcomes actions (start (PingSettings.withThreshold {} 2)) = some thread ∧
      FailedInARow outcomes 2 4 ∧ thread.answered = 4 ∧ thread.stopping = true ∧
      thread.pinger.heard = [.disconnected "ping failed"] ∧
      thread.pinger.state = .disconnected "ping failed" := by
  intro outcomes actions
  obtain ⟨thread, ran, answered, stopping, ended⟩ :
      ∃ thread, run? outcomes actions (start (PingSettings.withThreshold {} 2)) = some thread ∧
        thread.answered = 4 ∧ thread.stopping = true ∧ thread.stage = .ended :=
    ⟨_, rfl, rfl, rfl, rfl⟩
  have row : FailedInARow outcomes 2 4 := le_streak_iff.1 (by decide)
  obtain ⟨-, -, lost, -⟩ := loss_declared_once ran
  obtain ⟨-, -, state, told, -⟩ := lost 4 (Nat.le_of_eq answered.symm) row
  refine ⟨thread, ran, row, answered, stopping, ?_, state⟩
  obtain ⟨telling, -⟩ | ⟨-, heard⟩ := told
  · rw [ended] at telling
    cases telling
  · exact heard

end PingerThread

end DeviceLink
