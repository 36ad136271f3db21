import DeviceLink.Proofs.Queue.Interleaving

/-!
# What each step of an interleaving can do

One inversion lemma for each step: the state in which its guard lets it happen
and the state that it leaves. Proofs about interleavings use these lemmas and
do not look into the steps.
-/

namespace DeviceLink

namespace CommandQueue

variable {σ : Type} {queue later : CommandQueue σ}

/-- While the worker has the transport, a strategy is passed on behind the waiting ones. -/
theorem enqueue_of_worker
    (strategy : Strategy σ)
    (custody : queue.custody = .worker) :
    queue.enqueue strategy =
      (.ok queue.nextTicket,
        { queue with
          waiting := queue.waiting ++ [Job.mk queue.nextTicket strategy]
          nextTicket := queue.nextTicket + 1 }) := by
  unfold enqueue
  split
  next => rfl
  next gone => exact absurd custody gone

theorem enqueue_of_ended
    (strategy : Strategy σ)
    (custody : queue.custody ≠ .worker) :
    queue.enqueue strategy = (.error .queueClosed, queue) := by
  unfold enqueue
  split
  next worker => exact absurd worker custody
  next => rfl

/-- A job is taken by an idle worker; a job that cannot be labelled ends it instead. -/
theorem begin?_cases (taken : queue.begin? = some later) :
    queue.custody = .worker ∧ queue.activity = .idle ∧
      ∃ job others, queue.waiting = job :: others ∧
        ((job.strategy.labelCrashes = true ∧
            later = { queue with custody := .lost, waiting := [] }) ∨
          (job.strategy.labelCrashes = false ∧
            later = { queue with
              activity := .begun job
              waiting := others
              begun := job.ticket :: queue.begun })) := by
  unfold begin? at taken
  split at taken
  next job others custody activity waiting =>
    refine ⟨custody, activity, job, others, waiting, ?_⟩
    split at taken
    next crashes => exact .inl ⟨crashes, (Option.some.inj taken).symm⟩
    next steady => exact .inr ⟨by simpa using steady, (Option.some.inj taken).symm⟩
  next => cases taken

/-- Only a job that was taken is executed. -/
theorem perform?_cases (performed : queue.perform? = some later) :
    ∃ job, queue.activity = .begun job ∧
      later = { queue with
        transport := (job.strategy.run queue.transport).2
        activity := .settling job (job.strategy.run queue.transport).1
          (job.strategy.pauseAfter (job.strategy.run queue.transport).1).nanos } := by
  unfold perform? at performed
  split at performed
  next job activity => exact ⟨job, activity, (Option.some.inj performed).symm⟩
  next => cases performed

/-- Only the result of a job that was executed is posted. -/
theorem deliver?_cases (delivered : queue.deliver? = some later) :
    ∃ job result left, queue.activity = .settling job result left ∧
      later = { queue with
        activity := .idle
        results := (job.ticket, result) :: queue.results } := by
  unfold deliver? at delivered
  split at delivered
  next job result left activity =>
    exact ⟨job, result, left, activity, (Option.some.inj delivered).symm⟩
  next => cases delivered

/-- The worker ends in the middle of nothing, and after the queue was hung up. -/
theorem retire?_cases (retired : queue.retire? = some later) :
    queue.custody = .worker ∧ queue.activity = .idle ∧ queue.waiting = [] ∧
      queue.accepting = false ∧
      later = { queue with custody := if queue.abandoned then .lost else .returned } := by
  unfold retire? at retired
  split at retired
  next custody activity waiting =>
    split at retired
    next => cases retired
    next refusing =>
      exact ⟨custody, activity, waiting, by simpa using refusing, (Option.some.inj retired).symm⟩
  next => cases retired

/-- Only a transport that the worker returned is closed. -/
theorem closeTransport_of_returned [Transport σ] (custody : queue.custody = .returned) :
    queue.closeTransport.2 =
      { queue with
        transport := (Transport.close queue.transport).2
        custody := .closed } := by
  unfold closeTransport
  rw [custody]
  cases Transport.close queue.transport with
  | mk closing transport => cases closing <;> rfl

theorem closeTransport_of_not_returned [Transport σ] (custody : queue.custody ≠ .returned) :
    queue.closeTransport = (.ok (), queue) := by
  unfold closeTransport
  split
  next returned => exact absurd returned custody
  next => rfl

/-- Giving the claim back changes nothing but the guard. -/
theorem releaseGuard_fst (registry : ClaimRegistry) :
    (queue.releaseGuard registry).1 = { queue with guard := none } := by
  unfold releaseGuard
  split
  next noGuard => rw [← noGuard]
  next => rfl

end CommandQueue

namespace SharedQueue

variable {σ : Type} {site later : SharedQueue σ}

/-- The entrance is taken while it is free and the queue is open. -/
theorem enter?_cases
    {caller : Caller}
    {strategy : Strategy σ}
    (entered : site.enter? caller strategy = some later) :
    site.entering = none ∧
      ((site.queue.admits = true ∧ later = { site with entering := some (caller, strategy) }) ∨
        (site.queue.admits = false ∧ later = site.note (.refused caller))) := by
  unfold enter? at entered
  split at entered
  next => cases entered
  next free =>
    refine ⟨free, ?_⟩
    split at entered
    next opened => exact .inl ⟨opened, (Option.some.inj entered).symm⟩
    next refusing => exact .inr ⟨by simpa using refusing, (Option.some.inj entered).symm⟩

/-- The strategy in the entrance goes to the worker if there still is one. -/
theorem handOver?_cases (handed : site.handOver? = some later) :
    ∃ caller strategy, site.entering = some (caller, strategy) ∧
      ((site.queue.custody = .worker ∧
          later = { site with
              queue := { site.queue with
                waiting := site.queue.waiting ++ [Job.mk site.queue.nextTicket strategy]
                nextTicket := site.queue.nextTicket + 1 }
              entering := none
              held := (caller, site.queue.nextTicket) :: site.held }.note
            (.accepted caller ⟨site.queue.nextTicket, strategy⟩)) ∨
        (site.queue.custody ≠ .worker ∧
          later = { site with entering := none }.note (.refused caller))) := by
  unfold handOver? at handed
  split at handed
  next => cases handed
  next caller strategy entering =>
    refine ⟨caller, strategy, entering, ?_⟩
    by_cases custody : site.queue.custody = .worker
    · rw [CommandQueue.enqueue_of_worker strategy custody] at handed
      exact .inl ⟨custody, (Option.some.inj handed).symm⟩
    · rw [CommandQueue.enqueue_of_ended strategy custody] at handed
      exact .inr ⟨custody, (Option.some.inj handed).symm⟩

/-- A wait ends for a caller that holds the ticket. -/
theorem finishWait?_cases
    {caller : Caller}
    {ticket : Ticket}
    {timeout : Duration}
    (waited : site.finishWait? caller ticket timeout = some later) :
    (caller, ticket) ∈ site.held ∧
      later = { site with held := site.held.erase (caller, ticket) }.note
        (.answered caller ticket timeout ((site.queue.reply ticket).answer timeout)) := by
  unfold finishWait? at waited
  split at waited
  next held => exact ⟨held, (Option.some.inj waited).symm⟩
  next => cases waited

/-- A ticket is dropped by a caller that holds it. -/
theorem forget?_cases
    {caller : Caller}
    {ticket : Ticket}
    (forgot : site.forget? caller ticket = some later) :
    later = { site with held := site.held.erase (caller, ticket) } := by
  unfold forget? at forgot
  split at forgot
  next => exact (Option.some.inj forgot).symm
  next => cases forgot

/-- Only the first request of a shutdown changes anything. -/
theorem request_cases [Transport σ] (shut : site.shut? .request = some later) :
    (site.queue.closing = true ∧ later = site) ∨
      (site.queue.closing = false ∧
        later = { site with queue := site.queue.startClosing, stage := .requested }) := by
  simp only [shut?] at shut
  split at shut
  next closing => exact .inl ⟨closing, (Option.some.inj shut).symm⟩
  next opened => exact .inr ⟨by simpa using opened, (Option.some.inj shut).symm⟩

theorem hangUp_cases [Transport σ] (shut : site.shut? .hangUp = some later) :
    site.stage = .requested ∧ site.entering = none ∧
      later = { site with queue := site.queue.hangUp, stage := .hungUp } := by
  simp only [shut?] at shut
  split at shut
  next guard =>
    exact ⟨guard.1, Option.isNone_iff_eq_none.1 guard.2, (Option.some.inj shut).symm⟩
  next => cases shut

theorem receive_cases [Transport σ] (shut : site.shut? .receive = some later) :
    site.stage = .hungUp ∧ site.queue.custody ≠ .worker ∧
      later = { site with stage := .drained } := by
  simp only [shut?] at shut
  split at shut
  next guard => exact ⟨guard.1, guard.2, (Option.some.inj shut).symm⟩
  next => cases shut

theorem giveUp_cases [Transport σ] (shut : site.shut? .giveUp = some later) :
    site.stage = .hungUp ∧ site.queue.custody = .worker ∧
      later = { site with queue := site.queue.abandon, stage := .drained } := by
  simp only [shut?] at shut
  split at shut
  next guard => exact ⟨guard.1, guard.2, (Option.some.inj shut).symm⟩
  next => cases shut

theorem release_cases [Transport σ] (shut : site.shut? .release = some later) :
    site.stage = .drained ∧
      later = { site with
        queue := { site.queue with guard := none }
        registry := (site.queue.releaseGuard site.registry).2
        stage := .released } := by
  simp only [shut?] at shut
  split at shut
  next stage =>
    refine ⟨stage, ?_⟩
    rw [← Option.some.inj shut, ← CommandQueue.releaseGuard_fst site.registry]
  next => cases shut

/-- The transport is closed if the worker returned it; without it the shutdown just ends. -/
theorem close_cases [Transport σ] (shut : site.shut? .close = some later) :
    site.stage = .released ∧
      ((site.queue.custody = .returned ∧
          later = { site with
              queue := { site.queue with
                transport := (Transport.close site.queue.transport).2
                custody := .closed }
              stage := .ended }.note (.closed site.queue.closeTransport.1)) ∨
        (site.queue.custody ≠ .returned ∧ later = { site with stage := .ended })) := by
  simp only [shut?] at shut
  split at shut
  next stage =>
    refine ⟨stage, ?_⟩
    by_cases custody : site.queue.custody = .returned
    · rw [if_pos custody, CommandQueue.closeTransport_of_returned custody] at shut
      exact .inl ⟨custody, (Option.some.inj shut).symm⟩
    · rw [if_neg custody, CommandQueue.closeTransport_of_not_returned custody] at shut
      exact .inr ⟨custody, (Option.some.inj shut).symm⟩
  next => cases shut

end SharedQueue

end DeviceLink
