import DeviceLink.Proofs.Queue.Ending

/-!
# Shutdowns that wait for the worker close the transport

The worker ends for three reasons: the queue was hung up and nothing waits any
more, a shutdown gave up on it, or a label that crashed took it down. Without
the last two, a shutdown that waits gets the transport back and closes it.
-/

namespace DeviceLink

namespace SharedQueue

variable {σ : Type} {site later : SharedQueue σ}

/-- A worker that took a job and is still idle ended with it. -/
theorem takenEvent_of_idle
    {queue : CommandQueue σ}
    (idle : queue.activity = .idle) :
    takenEvent queue = .died := by
  rw [takenEvent, CommandQueue.current?, idle]

/-! ## The stage of a shutdown and the transport -/

/-- How the stage of the first shutdown, the entrance to the worker and the transport go
together. -/
structure DrainState (site : SharedQueue σ) : Prop where
  /-- The queue is open until the shutdown starts. -/
  starts : site.queue.closing = false ↔ site.stage = .unstarted
  /-- Strategies are let through until the shutdown hangs up. -/
  admits : site.queue.accepting = true ↔ site.stage = .unstarted ∨ site.stage = .requested
  /-- Behind the wait the worker has ended or was given up. -/
  drained : site.stage = .drained ∨ site.stage = .released ∨ site.stage = .ended →
    Drained site.queue
  /-- The transport is closed at the end of the shutdown only. -/
  closed : site.queue.custody = .closed → site.stage = .ended
  /-- At the end of the shutdown no transport is left to be closed. -/
  ended : site.stage = .ended → site.queue.custody ≠ .returned
  /-- The transport is lost only to a shutdown that gave up or to a worker that died. -/
  lost : site.queue.custody = .lost → site.queue.abandoned = true ∨ .died ∈ site.journal

namespace DrainState

/-- Nothing has happened to an open queue with a worker. -/
theorem of_fresh
    (stage : site.stage = .unstarted)
    (opened : site.queue.closing = false)
    (accepting : site.queue.accepting = true)
    (custody : site.queue.custody = .worker) :
    DrainState site where
  starts := by simp [stage, opened]
  admits := by simp [stage, accepting]
  drained := by simp [stage]
  closed := by simp [custody]
  ended := by simp [stage]
  lost := by simp [custody]

/-- A step that leaves the shutdown and the custody of the transport alone. -/
theorem of_same
    (state : DrainState site)
    (stage : later.stage = site.stage)
    (closing : later.queue.closing = site.queue.closing)
    (accepting : later.queue.accepting = site.queue.accepting)
    (custody : later.queue.custody = site.queue.custody)
    (abandoned : later.queue.abandoned = site.queue.abandoned)
    (journal : site.journal ⊆ later.journal) :
    DrainState later where
  starts := by
    rw [stage, closing]
    exact state.starts
  admits := by
    rw [stage, accepting]
    exact state.admits
  drained := by
    unfold Drained
    rw [stage, custody, abandoned]
    exact state.drained
  closed := by
    rw [stage, custody]
    exact state.closed
  ended := by
    rw [stage, custody]
    exact state.ended
  lost := by
    intro lost
    rw [custody] at lost
    rw [abandoned]
    exact (state.lost lost).imp_right (fun died => journal died)

theorem closing_of_started
    (state : DrainState site)
    (started : site.stage ≠ .unstarted) :
    site.queue.closing = true := by
  cases closing : site.queue.closing with
  | true => rfl
  | false => exact absurd (state.starts.1 closing) started

theorem not_accepting
    (state : DrainState site)
    (hungUp : ¬(site.stage = .unstarted ∨ site.stage = .requested)) :
    site.queue.accepting = false := by
  cases accepting : site.queue.accepting with
  | false => rfl
  | true => exact absurd (state.admits.1 accepting) hungUp

theorem work
    {step : WorkerStep}
    (state : DrainState site)
    (worked : site.work? step = some later) :
    DrainState later := by
  cases step with
  | take =>
      obtain ⟨queue, begun, rfl⟩ := Option.map_eq_some_iff.1 worked
      obtain ⟨custody, idle, job, others, _, ⟨_, rfl⟩ | ⟨_, rfl⟩⟩ :=
        CommandQueue.begin?_cases begun
      · refine { state with drained := ?_, closed := ?_, ended := ?_, lost := ?_ }
        · exact fun _ => Custody.noConfusion
        · exact Custody.noConfusion
        · exact fun _ => Custody.noConfusion
        · intro _
          have shown : takenEvent { site.queue with custody := .lost, waiting := [] } = .died :=
            takenEvent_of_idle idle
          exact .inr (by simp [note, shown])
      · exact state.of_same rfl rfl rfl rfl rfl (List.subset_cons_self _ _)
  | perform =>
      obtain ⟨queue, executed, rfl⟩ := Option.map_eq_some_iff.1 worked
      obtain ⟨job, _, rfl⟩ := CommandQueue.perform?_cases executed
      exact state.of_same rfl rfl rfl rfl rfl (List.subset_cons_self _ _)
  | deliver =>
      obtain ⟨queue, posted, rfl⟩ := Option.map_eq_some_iff.1 worked
      obtain ⟨job, result, left, _, rfl⟩ := CommandQueue.deliver?_cases posted
      exact state.of_same rfl rfl rfl rfl rfl (List.subset_cons_self _ _)
  | retire =>
      obtain ⟨queue, left, rfl⟩ := Option.map_eq_some_iff.1 worked
      obtain ⟨custody, _, _, _, rfl⟩ := CommandQueue.retire?_cases left
      -- A shutdown that is over has given up on a worker that is still there.
      have unfinished : site.queue.abandoned = false → site.stage ≠ .ended := by
        intro attended ended
        rw [state.drained (.inr (.inr ended)) custody] at attended
        cases attended
      cases abandoned : site.queue.abandoned with
      | true =>
          rw [if_pos rfl]
          exact { state with
            drained := fun _ => Custody.noConfusion
            closed := Custody.noConfusion
            ended := fun _ => Custody.noConfusion
            lost := fun _ => .inl rfl }
      | false =>
          rw [if_neg Bool.false_ne_true]
          exact { state with
            drained := fun _ => Custody.noConfusion
            closed := Custody.noConfusion
            ended := fun ended => absurd ended (unfinished abandoned)
            lost := Custody.noConfusion }

theorem shut [Transport σ]
    {step : ShutdownStep}
    (state : DrainState site)
    (shut : site.shut? step = some later) :
    DrainState later := by
  -- Before the end of a shutdown the transport is not closed.
  have unclosed : site.stage ≠ .ended → site.queue.custody ≠ .closed :=
    fun before closed => before (state.closed closed)
  cases step with
  | request =>
      obtain ⟨_, rfl⟩ | ⟨opened, rfl⟩ := request_cases shut
      · exact state
      · have stage := state.starts.1 opened
        have accepting := state.admits.2 (.inl stage)
        refine ⟨by simp [CommandQueue.startClosing], ?_, by simp, ?_, by simp, state.lost⟩
        · simpa [CommandQueue.startClosing] using accepting
        · exact fun closed => absurd closed (unclosed (by simp [stage]))
  | hangUp =>
      obtain ⟨stage, _, rfl⟩ := hangUp_cases shut
      have begun := state.closing_of_started (by simp [stage])
      refine ⟨by simp [CommandQueue.hangUp, begun], by simp [CommandQueue.hangUp], by simp, ?_,
        by simp, state.lost⟩
      exact fun closed => absurd closed (unclosed (by simp [stage]))
  | receive =>
      obtain ⟨stage, gone, rfl⟩ := receive_cases shut
      have begun := state.closing_of_started (by simp [stage])
      have refuses := state.not_accepting (by simp [stage])
      refine ⟨by simp [begun], by simp [refuses], fun _ worker => absurd worker gone, ?_, by simp,
        state.lost⟩
      exact fun closed => absurd closed (unclosed (by simp [stage]))
  | giveUp =>
      obtain ⟨stage, _, rfl⟩ := giveUp_cases shut
      have begun := state.closing_of_started (by simp [stage])
      have refuses := state.not_accepting (by simp [stage])
      refine ⟨by simp [CommandQueue.abandon, begun], by simp [CommandQueue.abandon, refuses],
        fun _ _ => rfl, ?_, by simp, fun _ => .inl rfl⟩
      exact fun closed => absurd closed (unclosed (by simp [stage]))
  | release =>
      obtain ⟨stage, rfl⟩ := release_cases shut
      have begun := state.closing_of_started (by simp [stage])
      have refuses := state.not_accepting (by simp [stage])
      refine ⟨by simp [begun], by simp [refuses], fun _ => state.drained (.inl stage), ?_, by simp,
        state.lost⟩
      exact fun closed => absurd closed (unclosed (by simp [stage]))
  | close =>
      obtain ⟨stage, ⟨_, rfl⟩ | ⟨kept, rfl⟩⟩ := close_cases shut
      · have begun := state.closing_of_started (by simp [stage])
        have refuses := state.not_accepting (by simp [stage])
        exact ⟨by simp [note, begun], by simp [note, refuses], fun _ => Custody.noConfusion,
          fun _ => rfl, fun _ => Custody.noConfusion, Custody.noConfusion⟩
      · have begun := state.closing_of_started (by simp [stage])
        have refuses := state.not_accepting (by simp [stage])
        exact ⟨by simp [begun], by simp [refuses], fun _ => state.drained (.inr (.inl stage)),
          fun _ => rfl, fun _ => kept, state.lost⟩

theorem step [Transport σ]
    {action : QueueAction σ}
    (state : DrainState site)
    (stepped : site.step? action = some later) :
    DrainState later := by
  cases action with
  | enter caller strategy =>
      obtain ⟨_, ⟨_, rfl⟩ | ⟨_, rfl⟩⟩ := enter?_cases stepped
      · exact { state with }
      · exact state.of_same rfl rfl rfl rfl rfl (List.subset_cons_self _ _)
  | handOver =>
      obtain ⟨caller, strategy, _, ⟨_, rfl⟩ | ⟨_, rfl⟩⟩ := handOver?_cases stepped
      · exact state.of_same rfl rfl rfl rfl rfl (List.subset_cons_self _ _)
      · exact state.of_same rfl rfl rfl rfl rfl (List.subset_cons_self _ _)
  | finishWait caller ticket timeout =>
      obtain ⟨_, rfl⟩ := finishWait?_cases stepped
      exact state.of_same rfl rfl rfl rfl rfl (List.subset_cons_self _ _)
  | forget caller ticket =>
      have made := forget?_cases stepped
      subst made
      exact { state with }
  | work step => exact state.work stepped
  | shut step => exact state.shut stepped

/-- A transport that is neither lost nor given up is closed when the shutdown has ended. -/
theorem closed_of_ended
    (state : DrainState site)
    (attended : site.queue.abandoned = false)
    (alive : .died ∉ site.journal)
    (stage : site.stage = .ended) :
    site.queue.custody = .closed := by
  cases custody : site.queue.custody with
  | worker =>
      have abandoned := state.drained (.inr (.inr stage)) custody
      rw [attended] at abandoned
      cases abandoned
  | returned => exact absurd custody (state.ended stage)
  | closed => rfl
  | lost =>
      obtain abandoned | died := state.lost custody
      · rw [attended] at abandoned
        cases abandoned
      · exact absurd died alive

end DrainState

/-! ## A shutdown that waits -/

/-- A step of the worker, of a shutdown that does not give up, or of the caller it waits for. -/
def IsDrainStep (action : QueueAction σ) : Prop :=
  action = .handOver ∨ (∃ step, action = .work step) ∨
    ∃ step, action = .shut step ∧ step ≠ .giveUp

section Closing

variable [Transport σ]

/-- A shutdown that waits can end with the transport closed. -/
def CanClose (site : SharedQueue σ) : Prop :=
  Leads IsDrainStep (fun later => later.stage = .ended ∧ later.queue.custody = .closed) site

namespace CanClose

theorem of_work
    {step : WorkerStep}
    (onward : CanClose later)
    (worked : site.work? step = some later) :
    CanClose site := by
  have stepped : site.step? (.work step) = some later := worked
  exact onward.of_step stepped (.inr (.inl ⟨step, rfl⟩))

theorem of_shut
    {step : ShutdownStep}
    (onward : CanClose later)
    (shut : site.shut? step = some later)
    (waits : step ≠ .giveUp) :
    CanClose site := by
  have stepped : site.step? (.shut step) = some later := shut
  exact onward.of_step stepped (.inr (.inr ⟨step, rfl, waits⟩))

end CanClose

/-! ### With the transport back -/

theorem canClose_of_released
    (stage : site.stage = .released)
    (returned : site.queue.custody = .returned) :
    CanClose site := by
  obtain ⟨next, closed, ended, custody⟩ := close_of_released stage
  exact CanClose.of_shut (leads_of_goal ⟨ended, custody returned⟩) closed ShutdownStep.noConfusion

theorem canClose_of_drained
    (stage : site.stage = .drained)
    (returned : site.queue.custody = .returned) :
    CanClose site := by
  refine CanClose.of_shut ?_ (release_of_drained stage) ShutdownStep.noConfusion
  exact canClose_of_released rfl returned

theorem canClose_of_returned
    (stage : site.stage = .hungUp)
    (returned : site.queue.custody = .returned) :
    CanClose site := by
  have gone : site.queue.custody ≠ .worker := by simp [returned]
  refine CanClose.of_shut ?_ (receive_of_hungUp stage gone) ShutdownStep.noConfusion
  exact canClose_of_drained rfl returned

end Closing

/-! ### With the worker at work -/

/-- Nothing keeps the worker from finishing what waits and returning the transport. -/
structure Finishing (site : SharedQueue σ) : Prop where
  /-- The shutdown waits for the worker. -/
  stage : site.stage = .hungUp
  /-- The worker has the transport. -/
  custody : site.queue.custody = .worker
  /-- No strategy is let through any more. -/
  refuses : site.queue.accepting = false
  /-- No shutdown has given up on the worker. -/
  attended : site.queue.abandoned = false
  /-- No label in line crashes. -/
  steady : ∀ job ∈ site.queue.waiting, job.strategy.labelCrashes = false

namespace Finishing

/-- An idle worker takes the job that waits first. -/
theorem take
    {job : Job σ}
    {others : List (Job σ)}
    (finishing : Finishing site)
    (idle : site.queue.activity = .idle)
    (waiting : site.queue.waiting = job :: others) :
    ∃ next, site.work? .take = some next ∧ Finishing next ∧
      next.queue.activity = .begun job ∧ next.queue.waiting = others := by
  have steady := finishing.steady
  rw [waiting] at steady
  have begun : site.queue.begin? = some { site.queue with
      activity := .begun job
      waiting := others
      begun := job.ticket :: site.queue.begun } := by
    simp [CommandQueue.begin?, finishing.custody, idle, waiting, steady job]
  refine ⟨_, Option.map_eq_some_iff.2 ⟨_, begun, rfl⟩, ?_, rfl, rfl⟩
  exact { finishing with steady := fun other member => steady other (.tail _ member) }

theorem perform
    {job : Job σ}
    (finishing : Finishing site)
    (activity : site.queue.activity = .begun job) :
    ∃ next, site.work? .perform = some next ∧ Finishing next ∧
      (∃ result left, next.queue.activity = .settling job result left) ∧
      next.queue.waiting = site.queue.waiting := by
  have executed : site.queue.perform? = some { site.queue with
      transport := (job.strategy.run site.queue.transport).2
      activity := .settling job (job.strategy.run site.queue.transport).1
        (job.strategy.pauseAfter (job.strategy.run site.queue.transport).1).nanos } := by
    rw [CommandQueue.perform?, activity]
  refine ⟨_, Option.map_eq_some_iff.2 ⟨_, executed, rfl⟩, ?_, ⟨_, _, rfl⟩, rfl⟩
  exact { finishing with }

theorem deliver
    {job : Job σ}
    {result : StrategyResult}
    {left : Nat}
    (finishing : Finishing site)
    (activity : site.queue.activity = .settling job result left) :
    ∃ next, site.work? .deliver = some next ∧ Finishing next ∧
      next.queue.activity = .idle ∧ next.queue.waiting = site.queue.waiting := by
  have posted : site.queue.deliver? = some { site.queue with
      activity := .idle
      results := (job.ticket, result) :: site.queue.results } := by
    rw [CommandQueue.deliver?, activity]
  refine ⟨_, Option.map_eq_some_iff.2 ⟨_, posted, rfl⟩, ?_, rfl, rfl⟩
  exact { finishing with }

/-- A worker with nothing left returns the transport. -/
theorem retire
    (finishing : Finishing site)
    (idle : site.queue.activity = .idle)
    (waiting : site.queue.waiting = []) :
    ∃ next, site.work? .retire = some next ∧ next.stage = .hungUp ∧
      next.queue.custody = .returned := by
  have ended : site.queue.retire? = some { site.queue with custody := .returned } := by
    simp [CommandQueue.retire?, finishing.custody, idle, waiting, finishing.refuses,
      finishing.attended]
  exact ⟨_, Option.map_eq_some_iff.2 ⟨_, ended, rfl⟩, finishing.stage, rfl⟩

variable [Transport σ]

theorem canClose_of_settling
    {job : Job σ}
    {result : StrategyResult}
    {left : Nat}
    (finishing : Finishing site)
    (activity : site.queue.activity = .settling job result left)
    (onward : ∀ next : SharedQueue σ, Finishing next → next.queue.activity = .idle →
      next.queue.waiting = site.queue.waiting → CanClose next) :
    CanClose site := by
  obtain ⟨next, worked, finishing, idle, waiting⟩ := finishing.deliver activity
  exact (onward next finishing idle waiting).of_work worked

theorem canClose_of_begun
    {job : Job σ}
    (finishing : Finishing site)
    (activity : site.queue.activity = .begun job)
    (onward : ∀ next : SharedQueue σ, Finishing next → next.queue.activity = .idle →
      next.queue.waiting = site.queue.waiting → CanClose next) :
    CanClose site := by
  obtain ⟨next, worked, finishing, ⟨result, left, settling⟩, waiting⟩ :=
    finishing.perform activity
  rw [← waiting] at onward
  exact (finishing.canClose_of_settling settling onward).of_work worked

/-- An idle worker finishes the jobs that wait one after another. -/
theorem canClose_of_idle
    {waiting : List (Job σ)}
    (finishing : Finishing site)
    (idle : site.queue.activity = .idle)
    (line : site.queue.waiting = waiting) :
    CanClose site := by
  induction waiting generalizing site with
  | nil =>
      obtain ⟨next, worked, stage, returned⟩ := finishing.retire idle line
      exact (canClose_of_returned stage returned).of_work worked
  | cons job others inductionHypothesis =>
      obtain ⟨next, worked, finishing, begun, rest⟩ := finishing.take idle line
      refine CanClose.of_work ?_ worked
      refine finishing.canClose_of_begun begun fun last finishing idle same => ?_
      exact inductionHypothesis finishing idle (same.trans rest)

theorem canClose (finishing : Finishing site) : CanClose site := by
  cases activity : site.queue.activity with
  | idle => exact finishing.canClose_of_idle activity rfl
  | begun job =>
      exact finishing.canClose_of_begun activity
        fun _ finishing idle _ => finishing.canClose_of_idle idle rfl
  | settling job result left =>
      exact finishing.canClose_of_settling activity
        fun _ finishing idle _ => finishing.canClose_of_idle idle rfl

end Finishing

/-! ### From every stage -/

/-- No label in line crashes, and no shutdown has given up on the worker. -/
structure Unharmed (site : SharedQueue σ) : Prop where
  /-- No shutdown has given up on the worker. -/
  attended : site.queue.abandoned = false
  /-- The worker has not died. -/
  alive : .died ∉ site.journal
  /-- No label of a waiting job crashes. -/
  waiting : ∀ job ∈ site.queue.waiting, job.strategy.labelCrashes = false
  /-- No label in the entrance crashes. -/
  entering : ∀ caller strategy, site.entering = some (caller, strategy) →
    strategy.labelCrashes = false

/-- Before the end of the shutdown the transport is with the worker, or on its way back. -/
theorem Unharmed.custody_cases
    (unharmed : Unharmed site)
    (state : DrainState site)
    (unended : site.stage ≠ .ended) :
    site.queue.custody = .worker ∨ site.queue.custody = .returned := by
  cases custody : site.queue.custody with
  | worker => exact .inl rfl
  | returned => exact .inr rfl
  | closed => exact absurd (state.closed custody) unended
  | lost =>
      obtain abandoned | died := state.lost custody
      · rw [unharmed.attended] at abandoned
        cases abandoned
      · exact absurd died unharmed.alive

section Stages

variable [Transport σ]

/-- The caller in the entrance hands over before the shutdown hangs up. -/
theorem canClose_of_requested
    (unharmed : Unharmed site)
    (stage : site.stage = .requested)
    (custody : site.queue.custody = .worker) :
    CanClose site := by
  have hangUp : ∀ {site : SharedQueue σ}, Unharmed site → site.stage = .requested →
      site.queue.custody = .worker → site.entering = none → CanClose site := by
    intro site unharmed stage custody free
    have finishing : Finishing { site with queue := site.queue.hangUp, stage := .hungUp } :=
      ⟨rfl, custody, rfl, unharmed.attended, unharmed.waiting⟩
    exact finishing.canClose.of_shut (hangUp_of_requested stage free) ShutdownStep.noConfusion
  cases entering : site.entering with
  | none => exact hangUp unharmed stage custody entering
  | some guest =>
      obtain ⟨caller, strategy⟩ := guest
      have handed : ∃ next, site.handOver? = some next ∧ Unharmed next ∧
          next.stage = .requested ∧ next.queue.custody = .worker ∧ next.entering = none := by
        simp only [handOver?, entering, CommandQueue.enqueue_of_worker strategy custody]
        refine ⟨_, rfl, ⟨unharmed.attended, ?_, ?_, by simp [note]⟩, stage, custody, rfl⟩
        · simpa using unharmed.alive
        · intro job member
          rcases List.mem_append.1 member with before | last
          · exact unharmed.waiting job before
          · rw [List.mem_singleton.1 last]
            exact unharmed.entering caller strategy entering
      obtain ⟨next, handed, unharmed, stage, custody, free⟩ := handed
      have stepped : site.step? .handOver = some next := handed
      exact (hangUp unharmed stage custody free).of_step stepped (.inl rfl)

/-- From every stage, a shutdown that waits can end with the transport closed, as long as no label
crashes. -/
theorem Unharmed.canClose
    (unharmed : Unharmed site)
    (state : DrainState site)
    (serves : site.queue.accepting = true → site.queue.custody = .worker) :
    CanClose site := by
  have returned : site.stage = .drained ∨ site.stage = .released →
      site.queue.custody = .returned := by
    intro drained
    have unended : site.stage ≠ .ended := by
      obtain stage | stage := drained
      · simp [stage]
      · simp [stage]
    obtain worker | returned := unharmed.custody_cases state unended
    · have abandoned := state.drained (drained.imp_right .inl) worker
      rw [unharmed.attended] at abandoned
      cases abandoned
    · exact returned
  cases stage : site.stage with
  | unstarted =>
      have requested : Unharmed
          { site with queue := site.queue.startClosing, stage := .requested } :=
        { unharmed with }
      have worker := serves (state.admits.2 (.inl stage))
      exact (canClose_of_requested requested rfl worker).of_shut
        (request_of_unstarted (state.starts.2 stage)) ShutdownStep.noConfusion
  | requested => exact canClose_of_requested unharmed stage (serves (state.admits.2 (.inr stage)))
  | hungUp =>
      obtain worker | returned := unharmed.custody_cases state (by simp [stage])
      · have finishing : Finishing site :=
          ⟨stage, worker, state.not_accepting (by simp [stage]), unharmed.attended,
            unharmed.waiting⟩
        exact finishing.canClose
      · exact canClose_of_returned stage returned
  | drained => exact canClose_of_drained stage (returned (.inl stage))
  | released => exact canClose_of_released stage (returned (.inr stage))
  | ended =>
      exact leads_of_goal
        ⟨stage, state.closed_of_ended unharmed.attended unharmed.alive stage⟩

end Stages

end SharedQueue

end DeviceLink
