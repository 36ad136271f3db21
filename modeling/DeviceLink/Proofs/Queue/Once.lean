import DeviceLink.Proofs.Queue.Sequential

/-!
# Each accepted job is executed once

The serial log has the work of one whole execution for each ticket. What the
worker did for an accepted job is a part of that, and all of it once the worker
has no step left. The worker does nothing else, and on its own it can always
finish.
-/

namespace DeviceLink

/-- The ticket for which the worker does something. -/
def WorkEvent.ticket : WorkEvent → Ticket
  | .began ticket => ticket
  | .ended ticket _ => ticket
  | .posted ticket => ticket

namespace Strategy

variable {σ : Type}

/-- The serial log has all work for each ticket, once. -/
theorem filter_serialLog
    (strategies : List (Strategy σ))
    (transport : σ)
    (ticket : Ticket) :
    (serialLog strategies transport).filter (fun event => event.ticket == ticket) =
      (runAll strategies transport).1[ticket]?.elim [] (WorkEvent.whole ticket) := by
  induction strategies using List.reverseRecOn with
  | nil => rfl
  | append_singleton strategies last inductionHypothesis =>
      have size : (runAll strategies transport).1.length = strategies.length :=
        length_runAll strategies transport
      rw [serialLog_concat, List.filter_append, inductionHypothesis, runAll_concat]
      rcases Nat.lt_trichotomy ticket strategies.length with earlier | rfl | later
      · have other : strategies.length ≠ ticket := Nat.ne_of_gt earlier
        rw [List.getElem?_append_left (size ▸ earlier)]
        simp [WorkEvent.whole, WorkEvent.ticket, other]
      · rw [← size, List.getElem?_eq_none (Nat.le_refl _), List.getElem?_concat_length]
        simp [WorkEvent.whole, WorkEvent.ticket]
      · have other : strategies.length ≠ ticket := Nat.ne_of_lt later
        rw [List.getElem?_eq_none (by omega), List.getElem?_eq_none (by simp; omega)]
        simp [WorkEvent.whole, WorkEvent.ticket, other]

/-- The serial log has only work for tickets of its strategies. -/
theorem ticket_lt_of_mem_serialLog
    {strategies : List (Strategy σ)}
    {transport : σ}
    {event : WorkEvent}
    (member : event ∈ serialLog strategies transport) :
    event.ticket < strategies.length := by
  have found : event ∈
      (serialLog strategies transport).filter (fun other => other.ticket == event.ticket) := by
    simp [member]
  rw [filter_serialLog] at found
  by_contra beyond
  have none : (runAll strategies transport).1.length ≤ event.ticket := by
    rw [length_runAll]
    exact Nat.le_of_not_lt beyond
  rw [List.getElem?_eq_none none] at found
  cases found

end Strategy

namespace SharedQueue

variable {σ : Type}

/-- What the worker did for one ticket, oldest first. -/
def workOn (site : SharedQueue σ) (ticket : Ticket) : List WorkEvent :=
  site.workLog.filter fun event => event.ticket == ticket

section Once

variable {first : σ} {site : SharedQueue σ} {done : List (Job σ)}

/-- An accepted job stands at the place that its ticket says. -/
theorem Serial.getElem?_jobs
    {job : Job σ}
    (serial : Serial first site done)
    (member : job ∈ site.jobs) :
    site.jobs[job.ticket]? = some job := by
  obtain ⟨index, found⟩ := List.mem_iff_getElem?.1 member
  have within : index < site.jobs.length := (List.getElem?_eq_some_iff.1 found).1
  have numbered : (site.jobs.map Job.ticket)[index]? = some index := by
    rw [serial.numbered, List.getElem?_range within]
  rw [List.getElem?_map, found] at numbered
  rw [Option.some.inj numbered]
  exact found

/-- The worker did a part of the work for an accepted job, which is done once in all. -/
theorem Serial.workOn_prefix
    {job : Job σ}
    (serial : Serial first site done)
    (member : job ∈ site.jobs) :
    ∃ result, (Strategy.runAll site.accepted first).1[job.ticket]? = some result ∧
      site.workOn job.ticket <+: WorkEvent.whole job.ticket result ∧
      (site.workLog = Strategy.serialLog site.accepted first →
        site.workOn job.ticket = WorkEvent.whole job.ticket result) := by
  have within : job.ticket < (Strategy.runAll site.accepted first).1.length := by
    have found := (List.getElem?_eq_some_iff.1 (serial.getElem?_jobs member)).1
    rw [Strategy.length_runAll, accepted, List.length_map]
    exact found
  have whole := Strategy.filter_serialLog site.accepted first job.ticket
  rw [List.getElem?_eq_getElem within] at whole
  refine ⟨_, List.getElem?_eq_getElem within, ?_, ?_⟩
  · have part := serial.workLog_prefix.filter fun event => event.ticket == job.ticket
    rw [whole] at part
    exact part
  · intro finished
    rw [workOn, finished, whole]
    rfl

/-- The worker works only for accepted jobs. -/
theorem Serial.job_of_workLog
    {event : WorkEvent}
    (serial : Serial first site done)
    (member : event ∈ site.workLog) :
    ∃ job ∈ site.jobs, job.ticket = event.ticket := by
  have within : event.ticket < site.jobs.length := by
    have below := Strategy.ticket_lt_of_mem_serialLog (serial.workLog_prefix.subset member)
    rw [accepted, List.length_map] at below
    exact below
  have ticket : event.ticket ∈ site.jobs.map Job.ticket := by
    rw [serial.numbered]
    exact List.mem_range.2 within
  exact List.mem_map.1 ticket

/-- A worker that has no step left has done all of its work. -/
theorem Serial.workLog_of_stopped
    (serial : Serial first site done)
    (labelled : ∀ job ∈ site.jobs, job.strategy.labelCrashes = false)
    (stopped : ∀ step, site.work? step = none) :
    site.workLog = Strategy.serialLog site.accepted first := by
  obtain finished | ⟨step, later, event, worked, -⟩ := serial.progress labelled
  · exact finished
  · rw [stopped step] at worked
    cases worked

/-- A worker that ended has done all of its work. -/
theorem Serial.workLog_of_ended
    (serial : Serial first site done)
    (gone : site.queue.custody ≠ .worker) :
    site.workLog = Strategy.serialLog site.accepted first := by
  obtain ⟨idle, waiting, -⟩ := serial.ended gone
  have atWork := serial.atWork
  unfold AtWork at atWork
  rw [idle] at atWork
  rw [atWork.1, serial.accepted_eq, CommandQueue.working_of_idle idle, waiting]
  simp

/-- A worker whose log is a part of a list can alone make it the whole list, as long as it has a
step that keeps that so while the log is not whole. -/
theorem finishes_of_progress [Transport σ]
    {target : List WorkEvent}
    (holds : SharedQueue σ → Prop)
    (part : ∀ site, holds site → site.workLog <+: target)
    (progress : ∀ site, holds site → site.workLog = target ∨
      ∃ step later event, site.work? step = some later ∧ holds later ∧
        later.workLog = site.workLog ++ [event])
    (initial : holds site) :
    ∃ (steps : List WorkerStep) (later : SharedQueue σ),
      run? (steps.map QueueAction.work) site = some later ∧ holds later ∧
      later.workLog = target := by
  -- Each step of the worker adds an event to its log, of which finitely many are missing.
  induction missing : target.length - site.workLog.length generalizing site with
  | zero =>
      refine ⟨[], site, rfl, initial, ?_⟩
      exact (part site initial).eq_of_length_le (by omega)
  | succ count inductionHypothesis =>
      obtain finished | ⟨step, next, event, worked, kept, grown⟩ := progress site initial
      · exact ⟨[], site, rfl, initial, finished⟩
      · have fewer : target.length - next.workLog.length = count := by
          rw [grown, List.length_append, List.length_singleton]
          omega
        obtain ⟨steps, later, ran, holdsLater, finished⟩ := inductionHypothesis kept fewer
        refine ⟨step :: steps, later, ?_, holdsLater, finished⟩
        exact Option.bind_eq_some_iff.2 ⟨next, worked, ran⟩

/-- The worker alone can always finish all of its work. -/
theorem Serial.finishes [Transport σ]
    (serial : Serial first site done)
    (labelled : ∀ strategy ∈ site.accepted, strategy.labelCrashes = false) :
    ∃ (steps : List WorkerStep) (later : SharedQueue σ),
      run? (steps.map QueueAction.work) site = some later ∧
      later.accepted = site.accepted ∧
      later.workLog = Strategy.serialLog site.accepted first := by
  let holds : SharedQueue σ → Prop := fun next =>
    next.accepted = site.accepted ∧ ∃ done, Serial first next done
  have part : ∀ next, holds next → next.workLog <+: Strategy.serialLog site.accepted first := by
    rintro next ⟨same, _, serial⟩
    rw [← same]
    exact serial.workLog_prefix
  have progress : ∀ next, holds next → next.workLog = Strategy.serialLog site.accepted first ∨
      ∃ step later event, next.work? step = some later ∧ holds later ∧
        later.workLog = next.workLog ++ [event] := by
    rintro next ⟨same, _, serial⟩
    have ofJobs : ∀ job ∈ next.jobs, job.strategy.labelCrashes = false :=
      fun job member => labelled job.strategy (same ▸ List.mem_map_of_mem member)
    obtain finished | ⟨step, later, event, worked, kept, grown⟩ := serial.progress ofJobs
    · exact .inl (same ▸ finished)
    · have stepped : next.step? (.work step) = some later := worked
      have serialLater :=
        serial.step (fun _ job head => ofJobs job (serial.mem_jobs_of_head head)) stepped
      exact .inr ⟨step, later, event, worked, ⟨kept.trans same, serialLater⟩, grown⟩
  obtain ⟨steps, later, ran, ⟨same, -⟩, finished⟩ :=
    finishes_of_progress holds part progress ⟨rfl, done, serial⟩
  exact ⟨steps, later, ran, same, finished⟩

end Once

end SharedQueue

end DeviceLink
