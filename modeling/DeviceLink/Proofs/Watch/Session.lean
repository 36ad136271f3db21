import DeviceLink.Proofs.Watch.Thread
import DeviceLink.Watch.Session

/-!
# Pinging over a queue as a run of the thread

A session that pings over a queue takes the results of its pings into account
in order, until the connection is lost. That is a run of the thread of a
pinger whose pings have these results, so whatever holds in every run of the
thread holds for it.
-/

namespace DeviceLink

namespace PingerThread

open Pinger

variable {outcomes : Nat → StrategyResult} {thread : PingerThread} {result : StrategyResult}

/-- An answer that does not lose the connection is taken into account as a whole. -/
theorem take_of_kept (kept : (thread.pinger.observe result).isLost = false) :
    thread.take result =
      { thread with
        pinger := thread.pinger.observe result
        stage := .resting
        answered := thread.answered + 1 } := by
  obtain ⟨-, counted⟩ | ⟨-, -, counted⟩ | ⟨-, -, counted⟩ := thread.pinger.observe_cases result
  · rw [counted] at kept
    simp [take, counted, kept]
  · rw [counted] at kept
    simp [take, counted, kept]
  · rw [counted] at kept
    simp [isLost, lossBy_ne_connected] at kept

/-- An answer that loses the connection is taken into account when the listener was told. -/
theorem report_take_of_lost
    (connected : thread.pinger.state = .connected)
    (lost : (thread.pinger.observe result).isLost = true) :
    (thread.take result).stage = .telling ∧
      (thread.take result).report.pinger = thread.pinger.observe result := by
  obtain ⟨-, counted⟩ | ⟨-, -, counted⟩ | ⟨-, -, counted⟩ := thread.pinger.observe_cases result
  · rw [counted] at lost
    simp [isLost, connected] at lost
  · rw [counted] at lost
    simp [isLost, connected] at lost
  · rw [counted] at lost
    simp [take, report, counted, lost]

theorem observeAll_of_lost
    {pinger : Pinger}
    (lost : pinger.isLost = true)
    (results : List StrategyResult) :
    pinger.observeAll results = pinger := by
  cases results with
  | nil => rfl
  | cons result results => rw [observeAll, if_pos lost]

/-- Results that are taken into account in order are those of a run of the thread. -/
theorem exists_run_observeAll
    {results : List StrategyResult}
    (resting : thread.stage = .resting)
    (going : thread.stopping = false)
    (connected : thread.pinger.state = .connected)
    (given : ∀ index (inside : index < results.length),
      outcomes (thread.answered + index) = results[index]) :
    ∃ actions later, run? outcomes actions thread = some later ∧
      later.pinger = thread.pinger.observeAll results := by
  induction results generalizing thread with
  | nil => exact ⟨[], thread, rfl, rfl⟩
  | cons result results inductionHypothesis =>
      let asked : PingerThread := { thread with stage := .pinging, sent := thread.sent + 1 }
      have first : outcomes thread.answered = result := given 0 (Nat.succ_pos _)
      have answered : run? outcomes [.send, .answer] thread = some (asked.take result) := by
        simp [run?, step?, resting, going, asked, first]
      have unlost : ¬ thread.pinger.isLost = true := by
        simp [isLost, connected]
      rw [observeAll, if_neg unlost]
      cases lost : (thread.pinger.observe result).isLost with
      | true =>
          have state : asked.pinger.state = .connected := connected
          obtain ⟨telling, whole⟩ := report_take_of_lost state lost
          refine ⟨[.send, .answer] ++ [.tell], (asked.take result).report, ?_, ?_⟩
          · rw [run?_append, answered]
            simp [run?, step?, telling]
          · rw [observeAll_of_lost lost]
            exact whole
      | false =>
          let next : PingerThread :=
            { asked with
              pinger := thread.pinger.observe result
              stage := .resting
              answered := thread.answered + 1 }
          have taken : asked.take result = next := take_of_kept lost
          have state : next.pinger.state = .connected := by
            simpa [isLost] using lost
          have others : ∀ index (inside : index < results.length),
              outcomes (next.answered + index) = results[index] := by
            intro index inside
            have later := given (index + 1) (Nat.succ_lt_succ inside)
            rw [← Nat.add_assoc, Nat.add_right_comm] at later
            exact later
          have rested : next.stage = .resting := rfl
          obtain ⟨actions, later, ran, pinger⟩ := inductionHypothesis rested going state others
          refine ⟨[.send, .answer] ++ actions, later, ?_, pinger⟩
          rw [run?_append, answered, taken]
          exact ran

end PingerThread

namespace QueueSession

variable {σ : Type}

/-- The results of the pings that a session sends until the connection is lost or it is stopped. -/
def pingResults
    (ping : Strategy σ)
    (stopped : QueueSession σ → Bool) :
    Nat → Pinger → QueueSession σ → List StrategyResult
  | 0, _, _ => []
  | rounds + 1, pinger, session =>
      if pinger.isLost || stopped session then []
      else
        let (result, session) := session.execute ping
        result :: pingResults ping stopped rounds (pinger.observe result) session

/-- A session takes the results of its pings into account in order. -/
theorem pingUntil_eq_observeAll
    (ping : Strategy σ)
    (stopped : QueueSession σ → Bool)
    (rounds : Nat)
    (pinger : Pinger)
    (session : QueueSession σ) :
    (session.pingUntil ping stopped rounds pinger).1 =
      pinger.observeAll (session.pingResults ping stopped rounds pinger) := by
  induction rounds generalizing pinger session with
  | zero => rfl
  | succ rounds inductionHypothesis =>
      rw [pingUntil, pingResults]
      cases lost : pinger.isLost with
      | true => simp [Pinger.observeAll]
      | false =>
          cases stop : stopped session with
          | true => simp [Pinger.observeAll]
          | false =>
              simp only [Bool.or_self, Bool.false_eq_true, if_false, Pinger.observeAll, lost]
              exact inductionHypothesis _ _

/-- Pinging over a queue is a run of the thread of a pinger whose pings have these results. -/
theorem pingUntil_follows_thread
    (ping : Strategy σ)
    (stopped : QueueSession σ → Bool)
    (rounds : Nat)
    (session : QueueSession σ)
    (settings : PingSettings) :
    let pinger : Pinger := { threshold := settings.failureThreshold }
    let results := session.pingResults ping stopped rounds pinger
    ∃ outcomes actions thread,
      (∀ index (inside : index < results.length), outcomes index = results[index]) ∧
      PingerThread.run? outcomes actions (.start settings) = some thread ∧
      (session.pingUntil ping stopped rounds pinger).1 = thread.pinger := by
  intro pinger results
  let outcomes : Nat → StrategyResult := fun index => results.getD index (.ok .success)
  have given : ∀ index (inside : index < results.length), outcomes index = results[index] := by
    intro index inside
    simp [outcomes, List.getD_eq_getElem?_getD, inside]
  have counted : ∀ index (inside : index < results.length),
      outcomes ((PingerThread.start settings).answered + index) = results[index] := by
    simpa [PingerThread.start] using given
  have resting : (PingerThread.start settings).stage = .resting := rfl
  obtain ⟨actions, thread, ran, same⟩ :=
    PingerThread.exists_run_observeAll resting rfl rfl counted
  refine ⟨outcomes, actions, thread, given, ran, ?_⟩
  rw [same, pingUntil_eq_observeAll]
  rfl

end QueueSession

end DeviceLink
