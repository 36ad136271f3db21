import DeviceLink.Proofs.Queue.Claim

/-!
# Shutdowns come to an end

A shutdown goes through its stages in order, and at each stage it has a next
step. At most it waits for the caller in the entrance to hand over, and it can
give up waiting for the worker, so it can end whatever the worker is doing.
-/

namespace DeviceLink

namespace SharedQueue

variable {σ : Type} [Transport σ] {site next later : SharedQueue σ}

/-- Steps of one kind can lead to a goal. -/
def Leads
    (kind : QueueAction σ → Prop)
    (goal : SharedQueue σ → Prop)
    (site : SharedQueue σ) : Prop :=
  ∃ actions later, run? actions site = some later ∧ (∀ action ∈ actions, kind action) ∧ goal later

section Leads

variable {kind : QueueAction σ → Prop} {goal middle : SharedQueue σ → Prop}
  {action : QueueAction σ}

theorem leads_of_goal (reached : goal site) : Leads kind goal site :=
  ⟨[], site, rfl, by simp, reached⟩

theorem Leads.of_step
    (onward : Leads kind goal next)
    (stepped : site.step? action = some next)
    (ofKind : kind action) :
    Leads kind goal site := by
  obtain ⟨actions, later, ran, kinds, reached⟩ := onward
  refine ⟨action :: actions, later, ?_, ?_, reached⟩
  · exact Option.bind_eq_some_iff.2 ⟨next, stepped, ran⟩
  · exact List.forall_mem_cons.2 ⟨ofKind, kinds⟩

end Leads

/-! ## The next step of a shutdown -/

section NextSteps

theorem request_of_unstarted (unasked : site.queue.closing = false) :
    site.shut? .request =
      some { site with queue := site.queue.startClosing, stage := .requested } := by
  simp only [shut?, unasked, Bool.false_eq_true, if_false]

theorem hangUp_of_requested
    (stage : site.stage = .requested)
    (free : site.entering = none) :
    site.shut? .hangUp = some { site with queue := site.queue.hangUp, stage := .hungUp } := by
  simp only [shut?, stage, free, Option.isNone_none, and_self, if_true]

theorem receive_of_hungUp
    (stage : site.stage = .hungUp)
    (gone : site.queue.custody ≠ .worker) :
    site.shut? .receive = some { site with stage := .drained } := by
  simp only [shut?, if_pos (And.intro stage gone)]

theorem giveUp_of_hungUp
    (stage : site.stage = .hungUp)
    (custody : site.queue.custody = .worker) :
    site.shut? .giveUp = some { site with queue := site.queue.abandon, stage := .drained } := by
  simp only [shut?, if_pos (And.intro stage custody)]

theorem release_of_drained (stage : site.stage = .drained) :
    site.shut? .release = some { site with
      queue := { site.queue with guard := none }
      registry := (site.queue.releaseGuard site.registry).2
      stage := .released } := by
  simp only [shut?, if_pos stage, CommandQueue.releaseGuard_fst]

/-- The last step closes a transport that was returned. -/
theorem close_of_released (stage : site.stage = .released) :
    ∃ next, site.shut? .close = some next ∧ next.stage = .ended ∧
      (site.queue.custody = .returned → next.queue.custody = .closed) := by
  simp only [shut?, if_pos stage]
  refine ⟨_, rfl, ?_, ?_⟩
  · split
    · rfl
    · rfl
  · intro returned
    simp [note, returned, CommandQueue.closeTransport_of_returned returned]

omit [Transport σ] in
/-- A caller in the entrance can always leave it. -/
theorem handOver?_of_entering
    {caller : Caller}
    {strategy : Strategy σ}
    (entering : site.entering = some (caller, strategy)) :
    ∃ next, site.handOver? = some next ∧ next.entering = none ∧ next.stage = site.stage := by
  unfold handOver?
  rw [entering]
  dsimp only
  split
  · exact ⟨_, rfl, rfl, rfl⟩
  · exact ⟨_, rfl, rfl, rfl⟩

end NextSteps

/-! ## A shutdown without the worker -/

/-- A step of a shutdown, or of the caller it waits for. -/
def IsClosingStep (action : QueueAction σ) : Prop :=
  action = .handOver ∨ ∃ step, action = .shut step

/-- A shutdown can end with no step of the worker. -/
def CanEnd (site : SharedQueue σ) : Prop :=
  Leads IsClosingStep (fun later => later.stage = .ended) site

section Stages

theorem CanEnd.of_shut
    {step : ShutdownStep}
    (onward : CanEnd next)
    (shut : site.shut? step = some next) :
    CanEnd site := by
  have stepped : site.step? (.shut step) = some next := shut
  exact onward.of_step stepped (.inr ⟨step, rfl⟩)

theorem canEnd_of_released (stage : site.stage = .released) : CanEnd site := by
  obtain ⟨next, closed, ended, -⟩ := close_of_released stage
  exact CanEnd.of_shut (leads_of_goal ended) closed

theorem canEnd_of_drained (stage : site.stage = .drained) : CanEnd site :=
  (canEnd_of_released rfl).of_shut (release_of_drained stage)

/-- A worker that has not ended is given up. -/
theorem canEnd_of_hungUp (stage : site.stage = .hungUp) : CanEnd site := by
  by_cases custody : site.queue.custody = .worker
  · exact (canEnd_of_drained rfl).of_shut (giveUp_of_hungUp stage custody)
  · exact (canEnd_of_drained rfl).of_shut (receive_of_hungUp stage custody)

theorem canEnd_of_requested (stage : site.stage = .requested) : CanEnd site := by
  have hangUp : ∀ {site : SharedQueue σ}, site.stage = .requested → site.entering = none →
      CanEnd site :=
    fun stage free => (canEnd_of_hungUp rfl).of_shut (hangUp_of_requested stage free)
  cases entering : site.entering with
  | none => exact hangUp stage entering
  | some guest =>
      obtain ⟨next, handed, free, same⟩ := handOver?_of_entering entering
      have stepped : site.step? .handOver = some next := handed
      exact (hangUp (same.trans stage) free).of_step stepped (.inl rfl)

/-- Whatever callers and the worker are doing, a shutdown can end. -/
theorem canEnd (unasked : site.stage = .unstarted → site.queue.closing = false) :
    CanEnd site := by
  cases stage : site.stage with
  | unstarted => exact (canEnd_of_requested rfl).of_shut (request_of_unstarted (unasked stage))
  | requested => exact canEnd_of_requested stage
  | hungUp => exact canEnd_of_hungUp stage
  | drained => exact canEnd_of_drained stage
  | released => exact canEnd_of_released stage
  | ended => exact leads_of_goal stage

end Stages

end SharedQueue

end DeviceLink
