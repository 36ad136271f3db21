import DeviceLink.Proofs.Queue.Draining
import DeviceLink.Proofs.Queue.Shutdown

/-!
# What crashes do to the worker

A strategy that fails or crashes while it is executed has an error for its
result, and the worker goes on. A label that crashes when the worker asks for
it is not caught: it takes the worker down with all jobs that wait. Up to that
job every accepted strategy is executed as if none had crashed; from there on
nothing is executed, and the transport is never closed.
-/

namespace DeviceLink

namespace Strategy

variable {σ : Type}

/-- The strategies before the first one whose label crashes. -/
def beforeCrash (strategies : List (Strategy σ)) : List (Strategy σ) :=
  strategies.takeWhile fun strategy => !strategy.labelCrashes

theorem beforeCrash_of_steady
    {steady : List (Strategy σ)}
    (labelled : ∀ strategy ∈ steady, strategy.labelCrashes = false)
    (others : List (Strategy σ)) :
    beforeCrash (steady ++ others) = steady ++ beforeCrash others := by
  refine List.takeWhile_append_of_pos fun strategy member => ?_
  rw [labelled strategy member]
  rfl

theorem beforeCrash_of_crash
    {crashing : Strategy σ}
    (crashes : crashing.labelCrashes = true)
    (others : List (Strategy σ)) :
    beforeCrash (crashing :: others) = [] := by
  simp [beforeCrash, crashes]

/-- Strategies that come later leave those before the first crash as they are. -/
theorem beforeCrash_append (early late : List (Strategy σ)) :
    ∃ more, beforeCrash (early ++ late) = beforeCrash early ++ more := by
  unfold beforeCrash
  rw [List.takeWhile_append]
  split
  next whole =>
    have same := (List.takeWhile_prefix _).eq_of_length whole
    exact ⟨_, by rw [same]⟩
  next => exact ⟨[], (List.append_nil _).symm⟩

theorem beforeCrash_eq_self
    {strategies : List (Strategy σ)}
    (labelled : ∀ strategy ∈ strategies, strategy.labelCrashes = false) :
    beforeCrash strategies = strategies := by
  have whole := beforeCrash_of_steady labelled []
  simpa [beforeCrash] using whole

end Strategy

namespace SharedQueue

variable {σ : Type} {first : σ} {site later : SharedQueue σ} {done : List (Job σ)}

/-- A shutdown does not touch what the worker is at and what it has done. -/
theorem shut?_keeps [Transport σ]
    {step : ShutdownStep}
    (shut : site.shut? step = some later) :
    later.queue.activity = site.queue.activity ∧ later.queue.waiting = site.queue.waiting ∧
      later.queue.results = site.queue.results := by
  cases step with
  | request =>
      obtain ⟨_, rfl⟩ | ⟨_, rfl⟩ := request_cases shut
      · exact ⟨rfl, rfl, rfl⟩
      · exact ⟨rfl, rfl, rfl⟩
  | hangUp =>
      obtain ⟨_, _, rfl⟩ := hangUp_cases shut
      exact ⟨rfl, rfl, rfl⟩
  | receive =>
      obtain ⟨_, _, rfl⟩ := receive_cases shut
      exact ⟨rfl, rfl, rfl⟩
  | giveUp =>
      obtain ⟨_, _, rfl⟩ := giveUp_cases shut
      exact ⟨rfl, rfl, rfl⟩
  | release =>
      obtain ⟨_, rfl⟩ := release_cases shut
      exact ⟨rfl, rfl, rfl⟩
  | close =>
      obtain ⟨_, ⟨_, rfl⟩ | ⟨_, rfl⟩⟩ := close_cases shut
      · exact ⟨rfl, rfl, rfl⟩
      · exact ⟨rfl, rfl, rfl⟩

/-! ## A worker that a label took down -/

/-- The jobs in `done` were executed, and the label of the next one took the worker down. -/
structure Felled (first : σ) (site : SharedQueue σ) (done : List (Job σ)) : Prop where
  /-- The tickets of the jobs are their numbers in the order of acceptance. -/
  numbered : site.jobs.map Job.ticket = List.range site.jobs.length
  /-- Behind the jobs done comes one whose label crashes. -/
  split : ∃ felling others, site.jobs = done ++ felling :: others ∧
    felling.strategy.labelCrashes = true
  /-- The results are those of a serial execution of the jobs done. -/
  posted : site.queue.results.reverse =
    (Strategy.runAll (done.map Job.strategy) first).1.zipIdx.map Prod.swap
  /-- The work that was shown is that of a serial execution of the jobs done. -/
  workLog : site.workLog = Strategy.serialLog (done.map Job.strategy) first
  /-- The worker executes nothing. -/
  idle : site.queue.activity = .idle
  /-- The jobs that waited are gone. -/
  waiting : site.queue.waiting = []
  /-- The transport is lost. -/
  lost : site.queue.custody = .lost

theorem Felled.of_same
    (felled : Felled first site done)
    (jobs : later.jobs = site.jobs)
    (workLog : later.workLog = site.workLog)
    (results : later.queue.results = site.queue.results)
    (activity : later.queue.activity = site.queue.activity)
    (waiting : later.queue.waiting = site.queue.waiting)
    (custody : later.queue.custody = site.queue.custody) :
    Felled first later done where
  numbered := jobs ▸ felled.numbered
  split := jobs ▸ felled.split
  posted := results ▸ felled.posted
  workLog := workLog.trans felled.workLog
  idle := activity.trans felled.idle
  waiting := waiting.trans felled.waiting
  lost := custody.trans felled.lost

theorem Felled.of_sameWork
    (felled : Felled first site done)
    (same : SameWork site later) :
    Felled first later done :=
  felled.of_same same.jobs same.workLog same.results same.activity same.waiting same.custody

theorem Felled.work?_eq_none
    (felled : Felled first site done)
    (step : WorkerStep) :
    site.work? step = none := by
  cases step with
  | take => simp [work?, CommandQueue.begin?, felled.lost]
  | perform => simp [work?, CommandQueue.perform?, felled.idle]
  | deliver => simp [work?, CommandQueue.deliver?, felled.idle]
  | retire => simp [work?, CommandQueue.retire?, felled.lost]

/-- What a worker that was taken down leaves behind does not change any more. -/
theorem Felled.step [Transport σ]
    {action : QueueAction σ}
    (felled : Felled first site done)
    (stepped : site.step? action = some later) :
    Felled first later done := by
  cases action with
  | enter caller strategy =>
      obtain ⟨_, ⟨_, rfl⟩ | ⟨_, rfl⟩⟩ := enter?_cases stepped
      · exact { felled with }
      · exact felled.of_sameWork (sameWork_note rfl rfl)
  | handOver =>
      obtain ⟨caller, strategy, _, ⟨worker, _⟩ | ⟨_, rfl⟩⟩ := handOver?_cases stepped
      · rw [felled.lost] at worker
        cases worker
      · have kept : Felled first { site with entering := none } done := { felled with }
        exact kept.of_sameWork (sameWork_note rfl rfl)
  | finishWait caller ticket timeout =>
      obtain ⟨_, rfl⟩ := finishWait?_cases stepped
      have kept : Felled first
          { site with held := site.held.erase (caller, ticket) } done := { felled with }
      exact kept.of_sameWork (sameWork_note rfl rfl)
  | forget caller ticket =>
      have made := forget?_cases stepped
      subst made
      exact { felled with }
  | work step =>
      have worked : site.work? step = some later := stepped
      rw [felled.work?_eq_none] at worked
      cases worked
  | shut step =>
      obtain ⟨activity, waiting, results⟩ := shut?_keeps stepped
      obtain ⟨_, _, ⟨journal, custody⟩ | ⟨_, _, returned, _⟩⟩ := shut?_shows stepped
      · refine felled.of_same ?_ ?_ results activity waiting custody
        · rw [SharedQueue.jobs, journal]
          rfl
        · rw [SharedQueue.workLog, journal]
          rfl
      · rw [felled.lost] at returned
        cases returned

/-! ## Either the worker goes on or a label took it down -/

/-- The worker executes what is accepted one after another and has taken no job whose label
crashes, or it was taken down by the first such job. -/
inductive Survival (first : σ) (site : SharedQueue σ) : Prop
  | alive
      {done : List (Job σ)}
      (serial : Serial first site done)
      (taken : ∀ job ∈ done ++ site.queue.working, job.strategy.labelCrashes = false)
      (alive : .died ∉ site.journal)
  | felled
      {done : List (Job σ)}
      (felled : Felled first site done)
      (executed : ∀ job ∈ done, job.strategy.labelCrashes = false)
      (died : .died ∈ site.journal)

/-- A step that takes no job leaves the line of waiting jobs or adds to its end, and does not end
the worker in a crash. -/
structure LeavesLine (site later : SharedQueue σ) : Prop where
  /-- The jobs that were accepted since wait at the end of the line. -/
  line : ∃ fresh, later.jobs = site.jobs ++ fresh ∧
    later.queue.waiting = site.queue.waiting ++ fresh
  /-- The worker does not die in the step. -/
  alive : .died ∉ site.journal → .died ∉ later.journal

theorem leavesLine_of_hidden
    (events : List (QueueEvent σ))
    (journal : later.journal = events ++ site.journal)
    (hidden : ∀ event ∈ events, event.job? = none)
    (noDeath : .died ∉ events)
    (waiting : later.queue.waiting = site.queue.waiting) :
    LeavesLine site later where
  line := by
    refine ⟨[], ?_, ?_⟩
    · rw [jobs, journal, filterMap_reverse_hidden hidden, List.append_nil]
      rfl
    · rw [waiting, List.append_nil]
  alive := by
    intro alive died
    rw [journal] at died
    exact (List.mem_append.1 died).elim noDeath alive

theorem leavesLine_work
    {step : WorkerStep}
    (worked : site.work? step = some later)
    (noTake : step ≠ .take) :
    LeavesLine site later := by
  cases step with
  | take => exact absurd rfl noTake
  | perform =>
      obtain ⟨queue, executed, rfl⟩ := Option.map_eq_some_iff.1 worked
      obtain ⟨job, _, rfl⟩ := CommandQueue.perform?_cases executed
      exact leavesLine_of_hidden [_] rfl (by simp [performedEvent, QueueEvent.job?])
        (by simp [performedEvent]) rfl
  | deliver =>
      obtain ⟨queue, posted, rfl⟩ := Option.map_eq_some_iff.1 worked
      obtain ⟨job, result, left, activity, rfl⟩ := CommandQueue.deliver?_cases posted
      rw [deliveredEvent_of_settling activity]
      exact leavesLine_of_hidden [_] rfl (by simp [QueueEvent.job?]) (by simp) rfl
  | retire =>
      obtain ⟨queue, left, rfl⟩ := Option.map_eq_some_iff.1 worked
      obtain ⟨_, _, _, _, rfl⟩ := CommandQueue.retire?_cases left
      exact leavesLine_of_hidden [_] rfl (by simp [QueueEvent.job?]) (by simp) rfl

theorem leavesLine_shut [Transport σ]
    {step : ShutdownStep}
    (shut : site.shut? step = some later) :
    LeavesLine site later := by
  obtain ⟨_, waiting, _⟩ := shut?_keeps shut
  obtain ⟨_, _, ⟨journal, _⟩ | ⟨outcome, journal, _⟩⟩ := shut?_shows shut
  · exact leavesLine_of_hidden [] journal (by simp) (by simp) waiting
  · exact leavesLine_of_hidden [.closed outcome] journal (by simp [QueueEvent.job?]) (by simp)
      waiting

/-- Every step but the taking of a job leaves the line. -/
theorem leavesLine_of_step? [Transport σ]
    {action : QueueAction σ}
    (stepped : site.step? action = some later)
    (noTake : action ≠ .work .take) :
    LeavesLine site later := by
  cases action with
  | enter caller strategy =>
      obtain ⟨_, ⟨_, rfl⟩ | ⟨_, rfl⟩⟩ := enter?_cases stepped
      · exact leavesLine_of_hidden [] rfl (by simp) (by simp) rfl
      · exact leavesLine_of_hidden [_] rfl (by simp [QueueEvent.job?]) (by simp) rfl
  | handOver =>
      obtain ⟨caller, strategy, _, ⟨_, rfl⟩ | ⟨_, rfl⟩⟩ := handOver?_cases stepped
      · refine ⟨⟨[⟨site.queue.nextTicket, strategy⟩], ?_, rfl⟩, ?_⟩
        · rw [jobs_note]
          rfl
        · intro alive died
          rcases List.mem_cons.1 died with fresh | old
          · cases fresh
          · exact alive old
      · exact leavesLine_of_hidden [_] rfl (by simp [QueueEvent.job?]) (by simp) rfl
  | finishWait caller ticket timeout =>
      obtain ⟨_, rfl⟩ := finishWait?_cases stepped
      exact leavesLine_of_hidden [_] rfl (by simp [QueueEvent.job?]) (by simp) rfl
  | forget caller ticket =>
      have made := forget?_cases stepped
      subst made
      exact leavesLine_of_hidden [] rfl (by simp) (by simp) rfl
  | work step => exact leavesLine_work stepped fun take => noTake (congrArg QueueAction.work take)
  | shut step => exact leavesLine_shut stepped

namespace Survival

/-- The jobs that the worker has taken are all but the waiting ones. -/
theorem taken_of_line
    {doneLater : List (Job σ)}
    (serial : Serial first site done)
    (serialLater : Serial first later doneLater)
    (leaves : LeavesLine site later) :
    doneLater ++ later.queue.working = done ++ site.queue.working := by
  obtain ⟨fresh, jobs, waiting⟩ := leaves.line
  rw [serialLater.split, serial.split, waiting, List.append_assoc (done ++ _)] at jobs
  exact List.append_cancel_right jobs

/-- A worker takes the job that waits first, and is taken down if its label crashes. -/
theorem take
    (serial : Serial first site done)
    (taken : ∀ job ∈ done ++ site.queue.working, job.strategy.labelCrashes = false)
    (alive : .died ∉ site.journal)
    (worked : site.work? .take = some later) :
    Survival first later := by
  obtain ⟨queue, begun, made⟩ := Option.map_eq_some_iff.1 worked
  obtain ⟨custody, idle, job, others, waiting, ⟨crashes, rfl⟩ | ⟨steady, rfl⟩⟩ :=
    CommandQueue.begin?_cases begun
  · have noWork := CommandQueue.working_of_idle idle
    have shown : takenEvent { site.queue with custody := .lost, waiting := [] } = .died :=
      takenEvent_of_idle idle
    rw [shown] at made
    have jobs : later.jobs = site.jobs := by
      rw [← made, jobs_note]
      exact List.append_nil _
    have atWork := serial.atWork
    unfold AtWork at atWork
    rw [idle] at atWork
    have workLog : later.workLog = site.workLog := by
      rw [← made, workLog_note]
      exact List.append_nil _
    have split : later.jobs = done ++ job :: others := by
      rw [jobs, serial.split, noWork, waiting, List.append_nil]
    rw [noWork, List.append_nil] at taken
    subst made
    refine .felled ⟨?_, ⟨job, others, split, crashes⟩, serial.posted, workLog.trans atWork.1,
      idle, rfl, rfl⟩ taken (List.mem_cons_self ..)
    rw [jobs]
    exact serial.numbered
  · have labelled : ∀ head ∈ site.queue.waiting.head?, head.strategy.labelCrashes = false := by
      intro head first
      rw [waiting, List.head?_cons, Option.mem_some_iff] at first
      rw [← first, steady]
    have noWork := CommandQueue.working_of_idle idle
    rw [noWork, List.append_nil] at taken
    refine .alive (serial.take labelled worked) ?_ ?_
    · rw [← made]
      intro other member
      rcases List.mem_append.1 member with before | now
      · exact taken other before
      · rw [List.mem_singleton.1 now, steady]
    · rw [← made]
      intro died
      rcases List.mem_cons.1 died with fresh | old
      · cases fresh
      · exact alive old

/-- Every step lets the worker survive, or is the taking of a job whose label crashes. -/
theorem step [Transport σ]
    {action : QueueAction σ}
    (survival : Survival first site)
    (stepped : site.step? action = some later) :
    Survival first later := by
  cases survival with
  | alive serial taken alive =>
      by_cases takes : action = .work .take
      · subst takes
        exact take serial taken alive stepped
      · have leaves := leavesLine_of_step? stepped takes
        obtain ⟨_, serialLater⟩ := serial.step (fun takesJob => absurd takesJob takes) stepped
        refine .alive serialLater ?_ (leaves.alive alive)
        rw [taken_of_line serial serialLater leaves]
        exact taken
  | felled felled executed died =>
      obtain ⟨events, effect⟩ := step?_callerEffect stepped
      refine .felled (felled.step stepped) executed ?_
      rw [effect.journal]
      exact List.mem_append_right _ died

end Survival

/-! ## Up to the first label that crashes -/

/-- The strategies before the first crash start with those of the jobs that were taken. -/
theorem beforeCrash_of_taken
    (serial : Serial first site done)
    (taken : ∀ job ∈ done ++ site.queue.working, job.strategy.labelCrashes = false) :
    Strategy.beforeCrash site.accepted = (done ++ site.queue.working).map Job.strategy ++
      Strategy.beforeCrash (site.queue.waiting.map Job.strategy) := by
  rw [accepted, serial.split, List.map_append]
  exact Strategy.beforeCrash_of_steady (List.forall_mem_map.2 taken) _

theorem Felled.beforeCrash_eq
    (felled : Felled first site done)
    (executed : ∀ job ∈ done, job.strategy.labelCrashes = false) :
    Strategy.beforeCrash site.accepted = done.map Job.strategy := by
  obtain ⟨felling, others, split, crashes⟩ := felled.split
  rw [accepted, split, List.map_append, List.map_cons,
    Strategy.beforeCrash_of_steady (List.forall_mem_map.2 executed),
    Strategy.beforeCrash_of_crash crashes, List.append_nil]

/-- A job that was executed shows its own result. -/
theorem reply_of_executed
    {ticket : Ticket}
    (serial : Serial first site done)
    (taken : ∀ job ∈ done ++ site.queue.working, job.strategy.labelCrashes = false)
    (executed : ticket < done.length) :
    ∃ result, site.queue.reply ticket = .result result ∧
      (Strategy.runAll (Strategy.beforeCrash site.accepted) first).1[ticket]? = some result := by
  rw [← List.length_map Job.strategy] at executed
  obtain ⟨result, reply, serially⟩ := reply_of_lookup serial.posted executed
  refine ⟨result, reply, ?_⟩
  rw [beforeCrash_of_taken serial taken, List.map_append, List.append_assoc]
  exact Strategy.result_lasts serially _

/-- Behind a crash no result comes any more. -/
theorem Felled.reply_of_unexecuted
    {ticket : Ticket}
    (felled : Felled first site done)
    (unexecuted : done.length ≤ ticket) :
    site.queue.reply ticket = .gone := by
  have noResult : site.queue.results.lookup ticket = none := by
    rw [lookup_results felled.posted]
    apply List.getElem?_eq_none
    rw [Strategy.length_runAll, List.length_map]
    exact unexecuted
  simp [CommandQueue.reply, noResult, CommandQueue.holds, CommandQueue.current?, felled.idle,
    felled.waiting]

/-- The strategy that took the worker down is an accepted one, right behind the executed ones. -/
theorem Felled.getElem?_accepted (felled : Felled first site done) :
    ∃ strategy, site.accepted[done.length]? = some strategy ∧ strategy.labelCrashes = true := by
  obtain ⟨felling, others, split, crashes⟩ := felled.split
  refine ⟨felling.strategy, ?_, crashes⟩
  rw [accepted, split, List.map_append, List.map_cons, ← List.length_map Job.strategy,
    List.getElem?_append_right (Nat.le_refl _), Nat.sub_self]
  rfl

/-- What is given for an accepted job once its wait ends: the timeout, its own result, or that the
queue is closed when a label up to its own has crashed. -/
def AnswerFits
    (first : σ)
    (accepted : List (Strategy σ))
    (ticket : Ticket)
    (timeout : Duration)
    (answer : StrategyResult) : Prop :=
  answer = .error (.queueTimeout timeout) ∨
    (Strategy.runAll (Strategy.beforeCrash accepted) first).1[ticket]? = some answer ∨
    (answer = .error .queueClosed ∧
      ∃ strategy ∈ accepted.take (ticket + 1), strategy.labelCrashes = true)

theorem AnswerFits.append
    {accepted : List (Strategy σ)}
    {ticket : Ticket}
    {timeout : Duration}
    {answer : StrategyResult}
    (fits : AnswerFits first accepted ticket timeout answer)
    (fresh : List (Strategy σ)) :
    AnswerFits first (accepted ++ fresh) ticket timeout answer := by
  obtain late | own | ⟨closed, strategy, member, crashes⟩ := fits
  · exact .inl late
  · obtain ⟨more, grown⟩ := Strategy.beforeCrash_append accepted fresh
    refine .inr (.inl ?_)
    rw [grown]
    exact Strategy.result_lasts own more
  · refine .inr (.inr ⟨closed, strategy, ?_, crashes⟩)
    rw [List.take_append]
    exact List.mem_append_left _ member

namespace Survival

theorem numbered (survival : Survival first site) :
    site.jobs.map Job.ticket = List.range site.jobs.length := by
  cases survival with
  | alive serial _ _ => exact serial.numbered
  | felled felled _ _ => exact felled.numbered

/-- The worker did a part of a serial execution of the strategies before the first crash. -/
theorem workLog_prefix (survival : Survival first site) :
    site.workLog <+: Strategy.serialLog (Strategy.beforeCrash site.accepted) first := by
  cases survival with
  | alive serial taken _ =>
      rw [beforeCrash_of_taken serial taken]
      exact serial.workLog_prefix_taken.trans (Strategy.serialLog_prefix _ _ _)
  | felled felled executed _ =>
      refine ⟨[], ?_⟩
      rw [List.append_nil, felled.beforeCrash_eq executed, felled.workLog]

/-- The worker goes on until the strategies before the first crash are executed. -/
theorem progress (survival : Survival first site) :
    site.workLog = Strategy.serialLog (Strategy.beforeCrash site.accepted) first ∨
      site.GoesOn := by
  cases survival with
  | felled felled executed _ =>
      left
      rw [felled.beforeCrash_eq executed, felled.workLog]
  | @alive done serial taken _ =>
      cases activity : site.queue.activity with
      | begun job => exact .inr (goesOn_of_begun activity)
      | settling job result left => exact .inr (goesOn_of_settling activity)
      | idle =>
          have atWork := serial.atWork
          unfold AtWork at atWork
          rw [activity] at atWork
          have whole : Strategy.beforeCrash (site.queue.waiting.map Job.strategy) = [] →
              site.workLog =
                Strategy.serialLog (Strategy.beforeCrash site.accepted) first := by
            intro none
            rw [beforeCrash_of_taken serial taken, none, List.append_nil,
              CommandQueue.working_of_idle activity, List.append_nil, atWork.1]
          cases waiting : site.queue.waiting with
          | nil => exact .inl (whole (by rw [waiting]; rfl))
          | cons job others =>
              cases label : job.strategy.labelCrashes with
              | true =>
                  left
                  apply whole
                  rw [waiting, List.map_cons]
                  exact Strategy.beforeCrash_of_crash label _
              | false => exact .inr (serial.goesOn_of_waiting label activity waiting)

/-- The worker alone can always execute what is accepted before the first crash. -/
theorem finishes [Transport σ] (survival : Survival first site) :
    ∃ (steps : List WorkerStep) (later : SharedQueue σ),
      run? (steps.map QueueAction.work) site = some later ∧
      later.accepted = site.accepted ∧
      later.workLog = Strategy.serialLog (Strategy.beforeCrash site.accepted) first := by
  let holds : SharedQueue σ → Prop := fun next =>
    next.accepted = site.accepted ∧ Survival first next
  have part : ∀ next, holds next →
      next.workLog <+: Strategy.serialLog (Strategy.beforeCrash site.accepted) first := by
    rintro next ⟨same, survival⟩
    rw [← same]
    exact survival.workLog_prefix
  have progress : ∀ next, holds next →
      next.workLog = Strategy.serialLog (Strategy.beforeCrash site.accepted) first ∨
        ∃ step later event, next.work? step = some later ∧ holds later ∧
          later.workLog = next.workLog ++ [event] := by
    rintro next ⟨same, survival⟩
    obtain finished | ⟨step, later, event, worked, kept, grown⟩ := survival.progress
    · exact .inl (same ▸ finished)
    · have stepped : next.step? (.work step) = some later := worked
      exact .inr ⟨step, later, event, worked, ⟨kept.trans same, survival.step stepped⟩, grown⟩
  obtain ⟨steps, later, ran, ⟨same, -⟩, finished⟩ :=
    finishes_of_progress holds part progress ⟨rfl, survival⟩
  exact ⟨steps, later, ran, same, finished⟩

/-- A posted ticket shows the result of its own strategy. -/
theorem reply_of_posted
    {ticket : Ticket}
    (survival : Survival first site)
    (posted : .posted ticket ∈ site.workLog) :
    ∃ result, site.queue.reply ticket = .result result ∧
      (Strategy.runAll (Strategy.beforeCrash site.accepted) first).1[ticket]? = some result := by
  cases survival with
  | alive serial taken _ => exact reply_of_executed serial taken (serial.posted_lt posted)
  | felled felled executed _ =>
      rw [felled.workLog] at posted
      have below := Strategy.ticket_lt_of_mem_serialLog posted
      rw [felled.beforeCrash_eq executed]
      exact reply_of_lookup felled.posted below

/-- What a wait for an accepted job ends with. -/
theorem answerFits
    {ticket : Ticket}
    (survival : Survival first site)
    (accepted : ticket < site.jobs.length)
    (timeout : Duration) :
    AnswerFits first site.accepted ticket timeout ((site.queue.reply ticket).answer timeout) := by
  cases survival with
  | @alive done serial taken _ =>
      rcases Nat.lt_or_ge ticket done.length with executed | unposted
      · obtain ⟨result, reply, serially⟩ := reply_of_executed serial taken executed
        rw [reply]
        exact .inr (.inl serially)
      · rw [serial.reply_of_unposted unposted accepted]
        exact .inl rfl
  | @felled done felled executed _ =>
      rcases Nat.lt_or_ge ticket done.length with before | behind
      · rw [← List.length_map Job.strategy] at before
        obtain ⟨result, reply, serially⟩ := reply_of_lookup felled.posted before
        rw [← felled.beforeCrash_eq executed] at serially
        rw [reply]
        exact .inr (.inl serially)
      · rw [felled.reply_of_unexecuted behind]
        obtain ⟨strategy, found, crashes⟩ := felled.getElem?_accepted
        refine .inr (.inr ⟨rfl, strategy, ?_, crashes⟩)
        rw [← List.getElem?_take_of_lt (Nat.lt_succ_of_le behind)] at found
        exact List.mem_of_getElem? found

/-- A worker that does not crash goes on as long as anything may be handed in. -/
theorem custody_of_accepting
    (serial : Serial first site done)
    (accepting : site.queue.accepting = true) :
    site.queue.custody = .worker := by
  by_contra gone
  have refusing := (serial.ended gone).2.2
  rw [accepting] at refusing
  cases refusing

/-- Until a shutdown begins, a worker that was not taken down gets everything that is handed in. -/
theorem submit_of_alive
    (survival : Survival first site)
    (state : DrainState site)
    (alive : .died ∉ site.journal)
    (opened : site.queue.closing = false)
    (strategy : Strategy σ) :
    (site.queue.submit strategy).1 = .ok site.jobs.length := by
  cases survival with
  | alive serial _ _ =>
      have accepting := state.admits.2 (.inl (state.starts.1 opened))
      have custody := custody_of_accepting serial accepting
      have admits : site.queue.admits = true := by
        simp [CommandQueue.admits, accepting, opened]
      rw [CommandQueue.submit, if_pos admits, CommandQueue.enqueue_of_worker strategy custody,
        serial.nextTicket]
  | felled _ _ died => exact absurd died alive

/-- A worker that was taken down gets nothing any more, and the transport is lost with it. -/
theorem submit_of_died
    (survival : Survival first site)
    (died : .died ∈ site.journal) :
    (Strategy.beforeCrash site.accepted).length < site.accepted.length ∧
      site.queue.custody = .lost ∧
      ∀ strategy, (site.queue.submit strategy).1 = .error .queueClosed := by
  cases survival with
  | alive _ _ alive => exact absurd died alive
  | felled felled executed _ =>
      refine ⟨?_, felled.lost, fun strategy => ?_⟩
      · obtain ⟨strategy, found, -⟩ := felled.getElem?_accepted
        rw [felled.beforeCrash_eq executed, List.length_map]
        exact (List.getElem?_eq_some_iff.1 found).1
      · have gone : site.queue.custody ≠ .worker := by simp [felled.lost]
        unfold CommandQueue.submit
        split
        · rw [CommandQueue.enqueue_of_ended strategy gone]
        · rfl

/-- A worker is taken down only by the label of an accepted strategy. -/
theorem not_died
    (survival : Survival first site)
    (labelled : ∀ strategy ∈ site.accepted, strategy.labelCrashes = false) :
    .died ∉ site.journal := by
  intro died
  obtain ⟨fewer, -⟩ := survival.submit_of_died died
  rw [Strategy.beforeCrash_eq_self labelled] at fewer
  exact Nat.lt_irrefl _ fewer

/-- While nothing was given up and no label crashes, a shutdown can close the transport. -/
theorem canClose [Transport σ]
    (survival : Survival first site)
    (state : DrainState site)
    (attended : site.queue.abandoned = false)
    (labelled : ∀ strategy ∈ site.accepted, strategy.labelCrashes = false)
    (entering : ∀ caller strategy, site.entering = some (caller, strategy) →
      strategy.labelCrashes = false) :
    CanClose site := by
  have alive := survival.not_died labelled
  cases survival with
  | felled _ _ died => exact absurd died alive
  | alive serial _ _ =>
      have waiting : ∀ job ∈ site.queue.waiting, job.strategy.labelCrashes = false := by
        intro job member
        apply labelled
        rw [accepted, serial.split]
        exact List.mem_map_of_mem (List.mem_append_right _ member)
      have unharmed : Unharmed site := ⟨attended, alive, waiting, entering⟩
      exact unharmed.canClose state (custody_of_accepting serial)

end Survival

/-! ## Whole interleavings -/

/-- Everything that holds of a shared queue after some interleaving, whatever crashes. -/
structure Outcome (first : σ) (site : SharedQueue σ) : Prop where
  /-- Callers hold tickets of their own. -/
  own : OwnTickets site
  /-- An answer is what its caller was owed for a job of its own. -/
  answers : ∀ caller ticket timeout answer,
    .answered caller ticket timeout answer ∈ site.journal →
    (∃ job, .accepted caller job ∈ site.journal ∧ job.ticket = ticket) ∧
      AnswerFits first site.accepted ticket timeout answer
  /-- The worker survives all executions, and at most a label takes it down. -/
  survival : Survival first site
  /-- The shutdown and the worker go together. -/
  drain : DrainState site

theorem Outcome.step [Transport σ]
    {action : QueueAction σ}
    (outcome : Outcome first site)
    (stepped : site.step? action = some later) :
    Outcome first later where
  own := outcome.own.step stepped
  answers := answers_step (AnswerFits first)
    (fun _ fresh _ _ _ fits => fits.append fresh)
    (fun _ timeout accepted => outcome.survival.answerFits accepted timeout)
    outcome.survival.numbered outcome.own outcome.answers stepped
  survival := outcome.survival.step stepped
  drain := outcome.drain.step stepped

section Runs

variable [Transport σ]
  {transport : σ}
  {settings : QueueSettings}
  {guard : Option ClaimGuard}
  {registry : ClaimRegistry}
  {actions : List (QueueAction σ)}

theorem outcome_start : Outcome transport (start transport settings guard registry) where
  own := fun _ _ member => nomatch member
  answers := fun _ _ _ _ member => nomatch member
  survival := .alive (serial_start transport settings guard registry) nofun nofun
  drain := .of_fresh rfl rfl rfl rfl

theorem Outcome.of_run?
    (outcome : Outcome first site)
    (ran : run? actions site = some later) :
    Outcome first later :=
  run?_induction (Outcome first) outcome (fun _ _ _ _ holds stepped => holds.step stepped) ran

/-- Strategies that fail or crash while they are executed never stop the worker, for any number of
callers and all strategies, in every interleaving. Of the accepted strategies those before the first
one whose label crashes are executed one after another and in order, and the worker alone can always
get there. A wait ends with the result of its own strategy or the timeout; that the queue is closed
it tells only when a label up to its own has crashed. As long as the worker is not taken down, every
strategy that is handed in before a shutdown is accepted, and a shutdown that did not give up has
closed the transport when it ends. While no label of an accepted strategy crashes the worker is
never taken down, and every shutdown that does not give up can come to its end with everything
executed. A worker that is taken down loses the transport, and nothing is accepted behind it. -/
theorem worker_survives_execution
    (ran : run? actions (start transport settings guard registry) = some site) :
    let steady := Strategy.beforeCrash site.accepted
    site.workLog <+: Strategy.serialLog steady transport ∧
    (∃ (steps : List WorkerStep) (later : SharedQueue σ),
      run? (steps.map QueueAction.work) site = some later ∧
      later.accepted = site.accepted ∧ later.workLog = Strategy.serialLog steady transport) ∧
    (∀ caller ticket timeout answer, .answered caller ticket timeout answer ∈ site.journal →
      (∃ job, .accepted caller job ∈ site.journal ∧ job.ticket = ticket) ∧
        (answer = .error (.queueTimeout timeout) ∨
          (Strategy.runAll steady transport).1[ticket]? = some answer ∨
          (answer = .error .queueClosed ∧
            ∃ strategy ∈ site.accepted.take (ticket + 1), strategy.labelCrashes = true))) ∧
    (∀ ticket timeout, .posted ticket ∈ site.workLog →
      (Strategy.runAll steady transport).1[ticket]? =
        some ((site.queue.reply ticket).answer timeout)) ∧
    (.died ∉ site.journal →
      (site.queue.closing = false →
        ∀ strategy, (site.queue.submit strategy).1 = .ok site.jobs.length) ∧
      (site.stage = .ended → site.queue.abandoned = false → site.queue.custody = .closed)) ∧
    ((∀ strategy ∈ site.accepted, strategy.labelCrashes = false) →
      .died ∉ site.journal ∧ steady = site.accepted ∧
      (site.queue.abandoned = false →
        (∀ caller strategy, site.entering = some (caller, strategy) →
          strategy.labelCrashes = false) →
        ∃ closing later, run? closing site = some later ∧
          (∀ action ∈ closing, IsDrainStep action) ∧
          later.stage = .ended ∧ later.queue.custody = .closed ∧
          later.workLog = Strategy.serialLog later.accepted transport)) ∧
    (.died ∈ site.journal →
      steady.length < site.accepted.length ∧ site.queue.custody = .lost ∧
      ∀ strategy, (site.queue.submit strategy).1 = .error .queueClosed) := by
  intro steady
  have outcome : Outcome transport site := outcome_start.of_run? ran
  refine ⟨outcome.survival.workLog_prefix, outcome.survival.finishes, outcome.answers, ?_, ?_, ?_,
    outcome.survival.submit_of_died⟩
  · intro ticket timeout posted
    obtain ⟨result, reply, serially⟩ := outcome.survival.reply_of_posted posted
    rw [reply]
    exact serially
  · intro alive
    refine ⟨outcome.survival.submit_of_alive outcome.drain alive, ?_⟩
    intro ended attended
    exact outcome.drain.closed_of_ended attended alive ended
  · intro labelled
    refine ⟨outcome.survival.not_died labelled, Strategy.beforeCrash_eq_self labelled, ?_⟩
    intro attended entering
    obtain ⟨closing, later, ranOn, kinds, ended, closed⟩ :=
      outcome.survival.canClose outcome.drain attended labelled entering
    refine ⟨closing, later, ranOn, kinds, ended, closed, ?_⟩
    cases (outcome.of_run? ranOn).survival with
    | alive serial _ _ => exact serial.workLog_of_ended (by simp [closed])
    | felled felled _ _ =>
        have lost := felled.lost
        rw [closed] at lost
        cases lost

end Runs

/-- One strategy crashes while it is executed, the next one fails, and both callers get their own
results; then a label takes the worker down, and the caller behind it is told that the queue is
closed. -/
theorem worker_survives_execution_until_label :
    let port : SerialPort := { name := "port", line := .quiet [] .silent }
    let crashing := Strategy.rehearsed "Crashing" none (.error .crash)
    let failing := Strategy.rehearsed "Failing" none (.error (.error .endOfStream))
    let felling := { Strategy.rehearsed "Felling" none (.ok .success) with labelCrashes := true }
    let writing := Strategy.rehearsed "Writing" (some [0x4C]) (.ok .success)
    let actions : List (QueueAction SerialPort) :=
      [.enter 0 crashing, .handOver, .enter 1 failing, .handOver, .work .take, .work .perform,
        .work .deliver, .work .take, .work .perform, .work .deliver, .enter 2 felling, .handOver,
        .enter 3 writing, .handOver, .work .take, .finishWait 0 0 .zero, .finishWait 1 1 .zero,
        .finishWait 3 3 .zero]
    ∃ site, run? actions (start port {}) = some site ∧
      site.workLog <+: Strategy.serialLog [crashing, failing] port ∧
      .answered 0 0 .zero (.error (.protocol "Crashing panicked")) ∈ site.journal ∧
      .answered 1 1 .zero (.error .endOfStream) ∈ site.journal ∧
      .answered 3 3 .zero (.error .queueClosed) ∈ site.journal ∧
      site.queue.custody = .lost ∧
      ∀ strategy, (site.queue.submit strategy).1 = .error .queueClosed := by
  intro port crashing failing felling writing actions
  obtain ⟨site, ran, accepted, journal, died⟩ :
      ∃ site, run? actions (start port {}) = some site ∧
        site.accepted = [crashing, failing, felling, writing] ∧
        site.journal.take 3 =
          [.answered 3 3 .zero (.error .queueClosed), .answered 1 1 .zero (.error .endOfStream),
            .answered 0 0 .zero (.error (.protocol "Crashing panicked"))] ∧
        site.journal[3]? = some .died := ⟨_, rfl, rfl, rfl, rfl⟩
  obtain ⟨part, -, -, -, -, -, taken⟩ := worker_survives_execution ran
  obtain ⟨-, lost, refuses⟩ := taken (List.mem_of_getElem? died)
  have steady : Strategy.beforeCrash site.accepted = [crashing, failing] := by
    rw [accepted]
    rfl
  rw [steady] at part
  have shown : ∀ event ∈ site.journal.take 3, event ∈ site.journal :=
    fun _ => List.mem_of_mem_take
  rw [journal] at shown
  refine ⟨site, ran, part, shown _ ?_, shown _ ?_, shown _ ?_, lost, refuses⟩
  · exact .tail _ (.tail _ (.head _))
  · exact .tail _ (.head _)
  · exact .head _

/-- A label takes the worker down: the strategy behind it is never executed and its caller told
that the queue is closed, though no shutdown has begun; the next one is refused, and a shutdown that
does not give up ends without closing the transport. -/
theorem label_crash_ends_worker :
    let port : SerialPort := { name := "port", line := .quiet [] .silent }
    let felling := { Strategy.rehearsed "Felling" none (.ok .success) with labelCrashes := true }
    let writing := Strategy.rehearsed "Writing" (some [0x4C]) (.ok .success)
    let handedIn : List (QueueAction SerialPort) :=
      [.enter 0 felling, .handOver, .enter 1 writing, .handOver, .work .take,
        .finishWait 1 1 .zero, .enter 2 writing, .handOver]
    (∃ site, run? handedIn (start port {}) = some site ∧ site.queue.closing = false ∧
      site.accepted = [felling, writing] ∧ site.refusals = [2] ∧
      (∀ step, site.work? step = none) ∧ site.workLog = [] ∧
      .answered 1 1 .zero (.error .queueClosed) ∈ site.journal) ∧
    ∃ site, run? (handedIn ++ [.shut .request, .shut .hangUp, .shut .receive, .shut .release,
        .shut .close]) (start port {}) = some site ∧
      site.stage = .ended ∧ site.queue.abandoned = false ∧ site.queue.custody = .lost ∧
      site.queue.transport.isOpen = true := by
  intro port felling writing handedIn
  refine ⟨⟨_, rfl, rfl, rfl, rfl, ?_, rfl, ?_⟩, _, rfl, rfl, rfl, rfl, rfl⟩
  · intro step
    cases step with
    | take => rfl
    | perform => rfl
    | deliver => rfl
    | retire => rfl
  · exact List.mem_of_getElem? (i := 1) rfl

end SharedQueue

end DeviceLink
