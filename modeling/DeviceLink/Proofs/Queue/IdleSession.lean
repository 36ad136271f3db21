import DeviceLink.Proofs.Queue.Steps

/-!
# Sessions over an idle queue

While the worker waits for work, a strategy that is handed in is executed at
once. Its result is there when the device has settled, so a wait that is no
shorter ends with it and leaves the queue idle again. A shutdown of an idle
queue drains nothing and closes the transport.
-/

namespace DeviceLink

namespace CommandQueue

variable {σ : Type} {queue later : CommandQueue σ} {openGates : List String}

/-! ## Ticks of the worker -/

/-- A tick of the worker is the first of a longer run of ticks. -/
theorem runTicks_of_tick
    (ticked : queue.tick? openGates = some later)
    (steps : Nat) :
    queue.runTicks openGates (steps + 1) = later.runTicks openGates steps := by
  rw [runTicks, ticked]

/-- A worker that is held makes no ticks. -/
theorem runTicks_of_held
    (held : queue.tick? openGates = none)
    (steps : Nat) :
    queue.runTicks openGates steps = queue := by
  cases steps with
  | zero => rfl
  | succ steps => rw [runTicks, held]

theorem runHeld_of_held (held : queue.tick? openGates = none) :
    queue.runHeld openGates = queue :=
  runTicks_of_held held _

/-- A wait ends at once when the queue is as wanted. -/
theorem awaitWithin_of_reached
    {wanted : CommandQueue σ → Bool}
    {rounds budget : Nat}
    (reached : wanted (queue.runHeld openGates) = true) :
    queue.awaitWithin openGates wanted (rounds + 1) budget =
      (true, queue.runHeld openGates) := by
  simp only [awaitWithin, reached, if_true]

/-- A wait that has the time lets the transport settle. -/
theorem awaitWithin_of_settling
    {wanted : CommandQueue σ → Bool}
    {rounds budget left : Nat}
    (unreached : wanted (queue.runHeld openGates) = false)
    (settles : (queue.runHeld openGates).settlingTime? = some left)
    (within : left ≤ budget) :
    queue.awaitWithin openGates wanted (rounds + 1) budget =
      ((queue.runHeld openGates).elapse left).awaitWithin openGates wanted rounds
        (budget - left) := by
  simp only [awaitWithin, unreached, settles, within, if_true, Bool.false_eq_true, if_false]

/-! ## Idle queues -/

/-- The queue is open and its worker waits for work. -/
structure Idle (queue : CommandQueue σ) : Prop where
  /-- The worker has the transport. -/
  custody : queue.custody = .worker
  /-- The worker executes nothing. -/
  activity : queue.activity = .idle
  /-- No job waits. -/
  waiting : queue.waiting = []
  /-- Strategies are let through. -/
  accepting : queue.accepting = true
  /-- No shutdown has begun. -/
  opened : queue.closing = false
  /-- No shutdown has given up on the worker. -/
  attended : queue.abandoned = false
  /-- All results that were posted belong to earlier tickets. -/
  fresh : ∀ posted ∈ queue.results, posted.1 < queue.nextTicket

theorem idle_start [Transport σ]
    (transport : σ)
    (settings : QueueSettings)
    (guard : Option ClaimGuard) :
    (start transport settings guard).Idle where
  custody := rfl
  activity := rfl
  waiting := rfl
  accepting := rfl
  opened := rfl
  attended := rfl
  fresh := by simp [start]

/-- The job that a strategy becomes. -/
def nextJob (strategy : Strategy σ) (queue : CommandQueue σ) : Job σ :=
  ⟨queue.nextTicket, strategy⟩

/-- The queue with a strategy that was executed, while the transport is left alone. -/
def settlingFor
    (strategy : Strategy σ)
    (left : Nat)
    (queue : CommandQueue σ) : CommandQueue σ :=
  { queue with
    transport := (strategy.run queue.transport).2
    activity := .settling (queue.nextJob strategy) (strategy.run queue.transport).1 left
    nextTicket := queue.nextTicket + 1
    begun := queue.nextTicket :: queue.begun }

/-- The queue after a strategy was executed and its result was posted. -/
def executed (strategy : Strategy σ) (queue : CommandQueue σ) : CommandQueue σ :=
  { queue with
    transport := (strategy.run queue.transport).2
    nextTicket := queue.nextTicket + 1
    begun := queue.nextTicket :: queue.begun
    results := (queue.nextTicket, (strategy.run queue.transport).1) :: queue.results }

/-- The queue after a shutdown that had nothing to wait for. -/
def shutDown [Transport σ] (queue : CommandQueue σ) : CommandQueue σ :=
  { queue with
    closing := true
    accepting := false
    custody := .closed
    guard := none
    transport := (Transport.close queue.transport).2 }

/-- Where the worker stops after a strategy was executed. -/
def heldAfter
    (strategy : Strategy σ)
    (left : Nat)
    (queue : CommandQueue σ) : CommandQueue σ :=
  if left = 0 then queue.executed strategy else queue.settlingFor strategy left

/-- What the ticket of an executed strategy shows. -/
theorem reply_executed (strategy : Strategy σ) :
    (queue.executed strategy).reply queue.nextTicket =
      .result (strategy.run queue.transport).1 := by
  simp [reply, executed]

/-- Only the guard decides which claim is given back. -/
theorem releaseGuard_snd_congr
    (same : later.guard = queue.guard)
    (registry : ClaimRegistry) :
    (later.releaseGuard registry).2 = (queue.releaseGuard registry).2 := by
  unfold releaseGuard
  rw [same]
  cases queue.guard with
  | none => rfl
  | some guard => rfl

namespace Idle

variable {strategy : Strategy σ}

theorem tick?_eq_none (idle : queue.Idle) : queue.tick? openGates = none := by
  have takesNothing : queue.begin? = none := by
    simp [begin?, idle.waiting]
  have goesOn : queue.retire? = none := by
    simp [retire?, idle.custody, idle.activity, idle.waiting, idle.accepting]
  rw [tick?, idle.activity]
  simp only [takesNothing, goesOn, Option.orElse_eq_orElse, Option.orElse_none]

theorem executed
    (idle : queue.Idle)
    (strategy : Strategy σ) :
    (queue.executed strategy).Idle where
  custody := idle.custody
  activity := idle.activity
  waiting := idle.waiting
  accepting := idle.accepting
  opened := idle.opened
  attended := idle.attended
  fresh := by
    intro posted member
    obtain rfl | older := List.mem_cons.1 member
    · exact Nat.lt_succ_self _
    · exact Nat.lt_succ_of_lt (idle.fresh posted older)

theorem submit_eq (idle : queue.Idle) :
    queue.submit strategy =
      (.ok queue.nextTicket,
        { queue with
          waiting := [queue.nextJob strategy]
          nextTicket := queue.nextTicket + 1 }) := by
  have lets : queue.admits = true := by
    simp [admits, idle.accepting, idle.opened]
  rw [submit, if_pos lets, enqueue_of_worker strategy idle.custody, idle.waiting]
  rfl

/-- The result of the job that the transport settles for is not there yet. -/
theorem reply_settlingFor
    (idle : queue.Idle)
    (left : Nat) :
    (queue.settlingFor strategy left).reply queue.nextTicket = .pending := by
  have unposted : queue.results.lookup queue.nextTicket = none := by
    refine List.lookup_eq_none_iff.2 fun posted member => ?_
    have older := idle.fresh posted member
    exact bne_iff_ne.2 (Nat.ne_of_gt older)
  simp [reply, settlingFor, unposted, holds, current?, nextJob]

/-- The result is posted as soon as the transport has settled. -/
theorem runTicks_settlingFor
    (idle : queue.Idle)
    (left steps : Nat) :
    (queue.settlingFor strategy left).runTicks openGates (steps + 1) =
      queue.heldAfter strategy left := by
  cases left with
  | zero =>
      have posted : (queue.settlingFor strategy 0).tick? openGates =
          some (queue.executed strategy) := by
        simp [tick?, settlingFor, deliver?, CommandQueue.executed, nextJob, idle.activity]
      rw [runTicks_of_tick posted, runTicks_of_held (idle.executed strategy).tick?_eq_none]
      rfl
  | succ left =>
      have held : (queue.settlingFor strategy (left + 1)).tick? openGates = none := by
        simp [tick?, settlingFor]
      rw [runTicks_of_held held, heldAfter, if_neg (Nat.succ_ne_zero left)]

/-- A strategy that nothing holds is executed at once. -/
theorem runHeld_submitted
    (idle : queue.Idle)
    (ungated : strategy.gate = none)
    (labelled : strategy.labelCrashes = false) :
    let left := (strategy.pauseAfter (strategy.run queue.transport).1).nanos
    (queue.submit strategy).2.runHeld openGates = queue.heldAfter strategy left := by
  intro left
  have taken : (queue.submit strategy).2.tick? openGates =
      some { queue with
        activity := .begun (queue.nextJob strategy)
        waiting := []
        nextTicket := queue.nextTicket + 1
        begun := queue.nextTicket :: queue.begun } := by
    rw [idle.submit_eq]
    simp [tick?, begin?, idle.custody, idle.activity, nextJob, labelled]
  have performed : tick? openGates
      { queue with
        activity := .begun (queue.nextJob strategy)
        waiting := []
        nextTicket := queue.nextTicket + 1
        begun := queue.nextTicket :: queue.begun } =
      some (queue.settlingFor strategy left) := by
    simp [tick?, passes, perform?, nextJob, ungated, settlingFor, idle.waiting, left]
  rw [runHeld, runTicks_of_tick taken, runTicks_of_tick performed]
  exact idle.runTicks_settlingFor left _

end Idle

end CommandQueue

namespace QueueSession

open CommandQueue CommandQueue.Idle

variable {σ : Type} {session : QueueSession σ} {strategy : Strategy σ} {timeout : Duration}

section Waits

variable {queue : CommandQueue σ} {openGates : List String}

theorem settled_executed : settled queue.nextTicket (queue.executed strategy) = true := by
  rw [settled, reply_executed]

theorem not_settled_settlingFor
    (idle : queue.Idle)
    (left : Nat) :
    settled queue.nextTicket (queue.settlingFor strategy left) = false := by
  rw [settled, idle.reply_settlingFor]

/-- A wait for a strategy that was executed ends when the transport has settled. -/
theorem awaitWithin_heldAfter
    {left budget : Nat}
    (idle : queue.Idle)
    (within : left ≤ budget)
    (rounds : Nat) :
    (queue.heldAfter strategy left).awaitWithin openGates (settled queue.nextTicket)
        (rounds + 2) budget =
      (true, queue.executed strategy) := by
  cases left with
  | zero =>
      have stays : (queue.executed strategy).runHeld openGates = queue.executed strategy :=
        runHeld_of_held (idle.executed strategy).tick?_eq_none
      rw [heldAfter, if_pos rfl, awaitWithin_of_reached (by rw [stays, settled_executed]), stays]
  | succ left =>
      have pending :
          settled queue.nextTicket (queue.settlingFor strategy (left + 1)) = false :=
        not_settled_settlingFor idle (left + 1)
      have held : (queue.settlingFor strategy (left + 1)).runHeld openGates =
          queue.settlingFor strategy (left + 1) :=
        idle.runTicks_settlingFor (left + 1) _
      have elapsed : ((queue.settlingFor strategy (left + 1)).elapse (left + 1)).runHeld openGates =
          queue.executed strategy := by
        have rested : (queue.settlingFor strategy (left + 1)).elapse (left + 1) =
            queue.settlingFor strategy 0 := by
          simp [elapse, settlingFor]
        rw [rested]
        exact idle.runTicks_settlingFor 0 _
      rw [heldAfter, if_neg (Nat.succ_ne_zero left),
        awaitWithin_of_settling (by rw [held, pending]) (by rw [held]; rfl) within, held,
        awaitWithin_of_reached (by rw [elapsed, settled_executed]), elapsed]

end Waits

/-- An idle queue executes a strategy that nothing holds, and a wait that is no shorter than the
time that the transport is left alone ends with its result. -/
theorem executeWithin_of_idle
    (idle : session.queue.Idle)
    (ungated : strategy.gate = none)
    (labelled : strategy.labelCrashes = false)
    (within : (strategy.pauseAfter (strategy.run session.queue.transport).1).nanos ≤
      timeout.nanos) :
    session.executeWithin strategy timeout =
      ((strategy.run session.queue.transport).1,
        { session with queue := session.queue.executed strategy }) := by
  have submitted : session.submit strategy =
      (.ok session.queue.nextTicket,
        { session with
          queue := session.queue.heldAfter strategy
            (strategy.pauseAfter (strategy.run session.queue.transport).1).nanos }) := by
    have held : (session.queue.submit strategy).2.runHeld session.openGates = _ :=
      idle.runHeld_submitted ungated labelled
    rw [← held]
    simp only [submit, idle.submit_eq, advance]
  rw [executeWithin, submitted]
  dsimp only
  rw [wait, await]
  dsimp only
  rw [awaitWithin_heldAfter idle within, reply_executed]
  rfl

/-- A shutdown of an idle queue gives the claim back and closes the transport. -/
theorem shutdown_of_idle [Transport σ] (idle : session.queue.Idle) :
    session.shutdown.2 =
      { session with
        queue := session.queue.shutDown
        registry := (session.queue.releaseGuard session.registry).2 } := by
  obtain ⟨queue, openGates, registry⟩ := session
  dsimp only at idle ⊢
  have unclosed : queue.closing = true ↔ False := by
    simp [idle.opened]
  let returned : CommandQueue σ := { queue.startClosing.hangUp with custody := .returned }
  have retired : queue.startClosing.hangUp.tick? openGates = some returned := by
    simp [tick?, begin?, retire?, startClosing, hangUp, idle.custody, idle.activity,
      idle.waiting, idle.attended, returned]
  have held : returned.tick? openGates = none := by
    simp [tick?, begin?, retire?, startClosing, hangUp, idle.activity, returned]
  have drained : queue.startClosing.hangUp.runHeld openGates = returned := by
    rw [runHeld, runTicks_of_tick retired, runTicks_of_held held]
  have awaited : ∀ rounds budget, returned.awaitWithin openGates workerEnded (rounds + 1) budget =
      (true, returned) := by
    intro rounds budget
    have stays := runHeld_of_held held
    rw [awaitWithin_of_reached (by rw [stays]; rfl), stays]
  simp only [shutdown, unclosed, if_false, advance, drained, await, awaited, if_true,
    releaseGuard_fst]
  have sameGuard : returned.guard = queue.guard := rfl
  rw [closeTransport_of_returned rfl, releaseGuard_snd_congr sameGuard]
  rfl

end QueueSession

end DeviceLink
