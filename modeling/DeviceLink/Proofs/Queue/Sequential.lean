import DeviceLink.Proofs.Queue.Callers
import DeviceLink.Proofs.Queue.Serial

/-!
# A shared queue acts like one caller after another

In every interleaving of callers, worker and shutdowns the worker's log is an
initial part of the serial log of the accepted strategies, the transport is
the one that a serial execution leaves, and a wait ends with the result of the
caller's own strategy or with the timeout. The worker can go on until the log
is whole.
-/

namespace DeviceLink

namespace SharedQueue

variable {σ : Type}

section Conclusions

variable {first : σ} {site : SharedQueue σ} {done : List (Job σ)}

/-- The posted jobs are the first ones of those accepted. -/
theorem Serial.accepted_eq (serial : Serial first site done) :
    site.accepted = done.map Job.strategy ++
      (site.queue.working ++ site.queue.waiting).map Job.strategy := by
  unfold accepted
  rw [serial.split, List.append_assoc, List.map_append]

/-- The worker did a part of a serial execution of the jobs that it has taken. -/
theorem Serial.workLog_prefix_taken (serial : Serial first site done) :
    site.workLog <+: Strategy.serialLog ((done ++ site.queue.working).map Job.strategy) first := by
  have atWork := serial.atWork
  unfold AtWork at atWork
  cases activity : site.queue.activity with
  | idle =>
      rw [activity] at atWork
      have whole : site.workLog =
          Strategy.serialLog ((done ++ site.queue.working).map Job.strategy) first := by
        rw [CommandQueue.working_of_idle activity, List.append_nil, atWork.1]
      exact ⟨[], by rw [List.append_nil, whole]⟩
  | begun job =>
      have working := CommandQueue.working_of_begun activity
      rw [activity] at atWork
      rw [atWork.1, working, List.map_append, List.map_singleton, Strategy.serialLog_concat,
        serial.ticket_of_working working, List.length_map, List.prefix_append_right_inj]
      exact ⟨_, rfl⟩
  | settling job result left =>
      have working := CommandQueue.working_of_settling activity
      rw [activity] at atWork
      rw [atWork.1, working, List.map_append, List.map_singleton, Strategy.serialLog_concat,
        serial.ticket_of_working working, List.length_map, List.prefix_append_right_inj, atWork.2]
      exact ⟨_, rfl⟩

/-- The worker did a part of what a serial execution does. -/
theorem Serial.workLog_prefix (serial : Serial first site done) :
    site.workLog <+: Strategy.serialLog site.accepted first := by
  refine serial.workLog_prefix_taken.trans ?_
  rw [serial.accepted_eq, List.map_append, List.map_append, ← List.append_assoc]
  exact Strategy.serialLog_prefix _ _ _

/-- Until it is closed, the transport is the one that the executions so far leave. -/
theorem Serial.transport_eq
    (serial : Serial first site done)
    (opened : site.queue.custody ≠ .closed) :
    site.queue.transport =
      (Strategy.runAll (site.accepted.take (site.workLog.countP WorkEvent.isEnd)) first).2 := by
  have atWork := serial.atWork
  unfold AtWork at atWork
  have accepted := serial.accepted_eq
  have ended := Strategy.countP_isEnd_serialLog (done.map Job.strategy) first
  cases activity : site.queue.activity with
  | idle =>
      rw [activity] at atWork
      rw [atWork.1, ended, accepted, List.take_left]
      exact atWork.2 opened
  | begun job =>
      rw [activity] at atWork
      rw [atWork.1, List.countP_append, ended, accepted]
      have noEnd : [WorkEvent.began job.ticket].countP WorkEvent.isEnd = 0 := rfl
      rw [noEnd, Nat.add_zero, List.take_left]
      exact atWork.2
  | settling job result left =>
      have working := CommandQueue.working_of_settling activity
      rw [activity] at atWork
      have oneEnd : [WorkEvent.began job.ticket, .ended job.ticket result].countP
          WorkEvent.isEnd = 1 := rfl
      have executed : (done.map Job.strategy).length + 1 =
          (done.map Job.strategy ++ [job.strategy]).length := by
        rw [List.length_append, List.length_singleton]
      rw [working, List.map_append, List.map_singleton, ← List.append_assoc] at accepted
      rw [atWork.1, List.countP_append, ended, oneEnd, accepted, executed, List.take_left,
        Strategy.runAll_concat, atWork.2]

/-- The results in the order of the tickets. -/
theorem lookup_results
    {strategies : List (Strategy σ)}
    (posted : site.queue.results.reverse =
      (Strategy.runAll strategies first).1.zipIdx.map Prod.swap)
    (ticket : Ticket) :
    site.queue.results.lookup ticket = (Strategy.runAll strategies first).1[ticket]? := by
  rw [← lookup_reverse_zipIdx, ← posted, List.reverse_reverse]

/-- A result that is posted is shown, and it is the one of a serial execution. -/
theorem reply_of_lookup
    {strategies : List (Strategy σ)}
    {ticket : Ticket}
    (posted : site.queue.results.reverse =
      (Strategy.runAll strategies first).1.zipIdx.map Prod.swap)
    (executed : ticket < strategies.length) :
    ∃ result, site.queue.reply ticket = .result result ∧
      (Strategy.runAll strategies first).1[ticket]? = some result := by
  have within : ticket < (Strategy.runAll strategies first).1.length := by
    rw [Strategy.length_runAll]
    exact executed
  refine ⟨_, ?_, List.getElem?_eq_getElem within⟩
  unfold CommandQueue.reply
  rw [lookup_results posted, List.getElem?_eq_getElem within]

/-- A result that is posted is the one of a serial execution. -/
theorem Serial.reply_of_posted
    {ticket : Ticket}
    (serial : Serial first site done)
    (posted : ticket < done.length) :
    ∃ result, site.queue.reply ticket = .result result ∧
      (Strategy.runAll site.accepted first).1[ticket]? = some result := by
  rw [← List.length_map Job.strategy] at posted
  obtain ⟨result, reply, serially⟩ := reply_of_lookup serial.posted posted
  refine ⟨result, reply, ?_⟩
  rw [serial.accepted_eq]
  exact Strategy.result_lasts serially _

/-- The result of an accepted job that is not posted yet is pending. -/
theorem Serial.reply_of_unposted
    {ticket : Ticket}
    (serial : Serial first site done)
    (unposted : done.length ≤ ticket)
    (accepted : ticket < site.jobs.length) :
    site.queue.reply ticket = .pending := by
  have noResult : site.queue.results.lookup ticket = none := by
    rw [lookup_results serial.posted]
    apply List.getElem?_eq_none
    rw [Strategy.length_runAll, List.length_map]
    exact unposted
  have ticketOf : site.jobs[ticket].ticket = ticket := by
    have numbered : (site.jobs.map Job.ticket)[ticket]? = some ticket := by
      rw [serial.numbered, List.getElem?_range accepted]
    rw [List.getElem?_map, List.getElem?_eq_getElem accepted] at numbered
    exact Option.some.inj numbered
  have unfinished : site.jobs[ticket] ∈ site.queue.working ++ site.queue.waiting := by
    have split : site.jobs = done ++ (site.queue.working ++ site.queue.waiting) := by
      rw [serial.split, List.append_assoc]
    have found : site.jobs[ticket]? =
        (site.queue.working ++ site.queue.waiting)[ticket - done.length]? := by
      rw [← List.getElem?_append_right unposted, ← split]
    rw [List.getElem?_eq_getElem accepted] at found
    exact List.mem_of_getElem? found.symm
  have holds : site.queue.holds ticket = true := by
    unfold CommandQueue.holds
    rw [CommandQueue.current?_eq, Bool.or_eq_true, beq_iff_eq]
    rcases List.mem_append.1 unfinished with working | waiting
    · left
      cases activity : site.queue.activity <;>
        simp only [CommandQueue.working, activity, List.not_mem_nil,
          List.mem_singleton] at working
      all_goals
        simp [CommandQueue.working, activity, ← working, ticketOf]
    · right
      rw [List.any_eq_true]
      exact ⟨_, waiting, by simpa using ticketOf⟩
  unfold CommandQueue.reply
  rw [noResult, holds]
  rfl

/-- What a wait for an accepted job ends with. -/
theorem Serial.answer
    {ticket : Ticket}
    (serial : Serial first site done)
    (accepted : ticket < site.jobs.length)
    (timeout : Duration) :
    (site.queue.reply ticket).answer timeout = .error (.queueTimeout timeout) ∨
      (Strategy.runAll site.accepted first).1[ticket]? =
        some ((site.queue.reply ticket).answer timeout) := by
  rcases Nat.lt_or_ge ticket done.length with posted | unposted
  · obtain ⟨result, reply, serially⟩ := serial.reply_of_posted posted
    right
    rw [reply, serially]
    rfl
  · left
    rw [serial.reply_of_unposted unposted accepted]
    rfl

/-- The worker has a step that adds to its log and accepts nothing. -/
def GoesOn (site : SharedQueue σ) : Prop :=
  ∃ step later event, site.work? step = some later ∧ later.accepted = site.accepted ∧
    later.workLog = site.workLog ++ [event]

/-- A step of the worker that shows work goes on. -/
theorem goesOn_of_worked
    {step : WorkerStep}
    {queue : CommandQueue σ}
    {event : WorkEvent}
    (worked : site.work? step = some (note (.worked event) { site with queue := queue })) :
    site.GoesOn := by
  refine ⟨step, _, event, worked, ?_, workLog_worked queue event⟩
  unfold accepted
  rw [jobs_worked]

/-- An idle worker takes the job that waits first. -/
theorem Serial.goesOn_of_waiting
    {job : Job σ}
    {others : List (Job σ)}
    (serial : Serial first site done)
    (labelled : job.strategy.labelCrashes = false)
    (idle : site.queue.activity = .idle)
    (waiting : site.queue.waiting = job :: others) :
    site.GoesOn := by
  have custody : site.queue.custody = .worker := by
    by_contra gone
    have drained := (serial.ended gone).2.1
    rw [waiting] at drained
    cases drained
  have begun : site.queue.begin? = some { site.queue with
      activity := .begun job
      waiting := others
      begun := job.ticket :: site.queue.begun } := by
    unfold CommandQueue.begin?
    rw [custody, idle, waiting]
    simp [labelled, custody]
  have worked : site.work? .take = some
      (note (.worked (.began job.ticket)) { site with queue := _ }) :=
    Option.map_eq_some_iff.2 ⟨_, begun, rfl⟩
  exact goesOn_of_worked worked

/-- A worker that began a job executes it. -/
theorem goesOn_of_begun
    {job : Job σ}
    (activity : site.queue.activity = .begun job) :
    site.GoesOn := by
  have executed : site.queue.perform? = some { site.queue with
      transport := (job.strategy.run site.queue.transport).2
      activity := .settling job (job.strategy.run site.queue.transport).1
        (job.strategy.pauseAfter (job.strategy.run site.queue.transport).1).nanos } := by
    unfold CommandQueue.perform?
    rw [activity]
  have worked : site.work? .perform = some
      (note (.worked (.ended job.ticket (job.strategy.run site.queue.transport).1))
        { site with queue := _ }) :=
    Option.map_eq_some_iff.2 ⟨_, executed, rfl⟩
  exact goesOn_of_worked worked

/-- A worker that executed a job posts its result. -/
theorem goesOn_of_settling
    {job : Job σ}
    {result : StrategyResult}
    {left : Nat}
    (activity : site.queue.activity = .settling job result left) :
    site.GoesOn := by
  have posted : site.queue.deliver? = some { site.queue with
      activity := .idle
      results := (job.ticket, result) :: site.queue.results } := by
    unfold CommandQueue.deliver?
    rw [activity]
  have worked : site.work? .deliver = some
      (note (deliveredEvent site.queue) { site with queue := _ }) :=
    Option.map_eq_some_iff.2 ⟨_, posted, rfl⟩
  rw [deliveredEvent_of_settling activity] at worked
  exact goesOn_of_worked worked

/-- While the log is not whole, the worker goes on. -/
theorem Serial.progress
    (serial : Serial first site done)
    (labelled : ∀ job ∈ site.jobs, job.strategy.labelCrashes = false) :
    site.workLog = Strategy.serialLog site.accepted first ∨ site.GoesOn := by
  cases activity : site.queue.activity with
  | idle =>
      cases waiting : site.queue.waiting with
      | nil =>
          left
          have atWork := serial.atWork
          unfold AtWork at atWork
          rw [activity] at atWork
          rw [atWork.1, serial.accepted_eq, CommandQueue.working_of_idle activity, waiting]
          simp
      | cons job others =>
          have member : job ∈ site.jobs := serial.mem_jobs_of_head (by simp [waiting])
          exact .inr (serial.goesOn_of_waiting (labelled job member) activity waiting)
  | begun job => exact .inr (goesOn_of_begun activity)
  | settling job result left => exact .inr (goesOn_of_settling activity)

/-- A posted ticket in the log belongs to a posted job. -/
theorem Serial.posted_lt
    {ticket : Ticket}
    (serial : Serial first site done)
    (posted : .posted ticket ∈ site.workLog) :
    ticket < done.length := by
  have inSerial : .posted ticket ∈ Strategy.serialLog (done.map Job.strategy) first := by
    have atWork := serial.atWork
    unfold AtWork at atWork
    cases activity : site.queue.activity with
    | idle =>
        rw [activity] at atWork
        exact atWork.1 ▸ posted
    | begun job =>
        rw [activity] at atWork
        rw [atWork.1] at posted
        simpa using posted
    | settling job result left =>
        rw [activity] at atWork
        rw [atWork.1] at posted
        simpa using posted
  obtain ⟨⟨result, index⟩, member, inWhole⟩ := List.mem_flatMap.1 inSerial
  have ticketOf : ticket = index := by
    simpa [WorkEvent.whole] using inWhole
  have within := List.snd_lt_of_mem_zipIdx member
  rw [Strategy.length_runAll, List.length_map, Nat.add_zero] at within
  exact ticketOf ▸ within

end Conclusions

/-! ### Answers -/

/-- Every wait that ended gave its caller the result of its own strategy, or the timeout. -/
def OwnAnswers (first : σ) (site : SharedQueue σ) : Prop :=
  ∀ caller ticket timeout answer, .answered caller ticket timeout answer ∈ site.journal →
    (∃ job, .accepted caller job ∈ site.journal ∧ job.ticket = ticket) ∧
      (answer = .error (.queueTimeout timeout) ∨
        (Strategy.runAll site.accepted first).1[ticket]? = some answer)

/-- The job of an accepting event has a ticket below the number of jobs. -/
theorem ticket_lt_of_accepted
    {site : SharedQueue σ}
    {caller : Caller}
    {job : Job σ}
    (numbered : site.jobs.map Job.ticket = List.range site.jobs.length)
    (accepted : .accepted caller job ∈ site.journal) :
    job.ticket < site.jobs.length := by
  have member : job.ticket ∈ site.jobs.map Job.ticket :=
    List.mem_map_of_mem (mem_jobs.2 ⟨caller, accepted⟩)
  rw [numbered] at member
  exact List.mem_range.1 member

/-- Every wait that ended gave its caller an answer that fits its ticket, as long as what waits
give now fits and strategies that are accepted later do not make a difference. -/
theorem answers_step [Transport σ]
    (fits : List (Strategy σ) → Ticket → Duration → StrategyResult → Prop)
    {action : QueueAction σ}
    {site later : SharedQueue σ}
    (lasting : ∀ accepted fresh ticket timeout answer,
      fits accepted ticket timeout answer → fits (accepted ++ fresh) ticket timeout answer)
    (now : ∀ ticket timeout, ticket < site.jobs.length →
      fits site.accepted ticket timeout ((site.queue.reply ticket).answer timeout))
    (numbered : site.jobs.map Job.ticket = List.range site.jobs.length)
    (own : OwnTickets site)
    (answers : ∀ caller ticket timeout answer,
      .answered caller ticket timeout answer ∈ site.journal →
      (∃ job, .accepted caller job ∈ site.journal ∧ job.ticket = ticket) ∧
        fits site.accepted ticket timeout answer)
    (stepped : site.step? action = some later) :
    ∀ caller ticket timeout answer, .answered caller ticket timeout answer ∈ later.journal →
      (∃ job, .accepted caller job ∈ later.journal ∧ job.ticket = ticket) ∧
        fits later.accepted ticket timeout answer := by
  obtain ⟨events, effect⟩ := step?_callerEffect stepped
  obtain ⟨fresh, jobs⟩ := jobs_prefix effect.journal
  have accepted : later.accepted = site.accepted ++ fresh.map Job.strategy := by
    unfold SharedQueue.accepted
    rw [← jobs, List.map_append]
  intro caller ticket timeout answer answered
  rw [effect.journal] at answered ⊢
  rw [accepted]
  rcases List.mem_append.1 answered with fresh | before
  · obtain ⟨held, rfl⟩ := effect.answered caller ticket timeout answer fresh
    obtain ⟨job, accepted, rfl⟩ := own caller ticket held
    refine ⟨⟨job, List.mem_append_right _ accepted, rfl⟩, ?_⟩
    exact lasting _ _ _ _ _ (now _ timeout (ticket_lt_of_accepted numbered accepted))
  · obtain ⟨⟨job, accepted, ticketOf⟩, correct⟩ := answers caller ticket timeout answer before
    exact ⟨⟨job, List.mem_append_right _ accepted, ticketOf⟩, lasting _ _ _ _ _ correct⟩

theorem OwnAnswers.step [Transport σ]
    {first : σ}
    {action : QueueAction σ}
    {site later : SharedQueue σ}
    {done : List (Job σ)}
    (answers : OwnAnswers first site)
    (own : OwnTickets site)
    (serial : Serial first site done)
    (stepped : site.step? action = some later) :
    OwnAnswers first later := by
  refine answers_step
    (fun accepted ticket timeout answer => answer = .error (.queueTimeout timeout) ∨
      (Strategy.runAll accepted first).1[ticket]? = some answer)
    ?_ (fun _ timeout accepted => serial.answer accepted timeout) serial.numbered own answers
    stepped
  intro accepted fresh ticket timeout answer fits
  exact fits.imp_right fun result => Strategy.result_lasts result _

/-! ### Admission without a shutdown -/

/-- No shutdown has begun, the worker goes on, and no caller was refused. -/
structure Undisturbed (site : SharedQueue σ) : Prop where
  /-- No shutdown has begun. -/
  closing : site.queue.closing = false
  /-- Strategies are let through. -/
  accepting : site.queue.accepting = true
  /-- The worker has the transport. -/
  custody : site.queue.custody = .worker
  /-- No caller was refused. -/
  noneRefused : ∀ caller, .refused caller ∉ site.journal

theorem Undisturbed.work
    {site later : SharedQueue σ}
    {step : WorkerStep}
    (undisturbed : Undisturbed site)
    (labelled : ∀ job ∈ site.queue.waiting, job.strategy.labelCrashes = false)
    (worked : site.work? step = some later) :
    Undisturbed later := by
  obtain ⟨closing, accepting, custody, noneRefused⟩ := undisturbed
  cases step with
  | take =>
      obtain ⟨queue, begun, rfl⟩ := Option.map_eq_some_iff.1 worked
      obtain ⟨_, _, job, others, waiting, ⟨crashes, _⟩ | ⟨_, rfl⟩⟩ :=
        CommandQueue.begin?_cases begun
      · rw [labelled job (by simp [waiting])] at crashes
        cases crashes
      · refine ⟨closing, accepting, custody, fun caller member => ?_⟩
        rcases List.mem_cons.1 member with fresh | old
        · cases fresh
        · exact noneRefused caller old
  | perform =>
      obtain ⟨queue, executed, rfl⟩ := Option.map_eq_some_iff.1 worked
      obtain ⟨job, _, rfl⟩ := CommandQueue.perform?_cases executed
      refine ⟨closing, accepting, custody, fun caller member => ?_⟩
      rcases List.mem_cons.1 member with fresh | old
      · cases fresh
      · exact noneRefused caller old
  | deliver =>
      obtain ⟨queue, posted, rfl⟩ := Option.map_eq_some_iff.1 worked
      obtain ⟨job, result, left, activity, rfl⟩ := CommandQueue.deliver?_cases posted
      refine ⟨closing, accepting, custody, fun caller member => ?_⟩
      rcases List.mem_cons.1 member with fresh | old
      · rw [deliveredEvent_of_settling activity] at fresh
        cases fresh
      · exact noneRefused caller old
  | retire =>
      obtain ⟨queue, left, _⟩ := Option.map_eq_some_iff.1 worked
      have refusing := (CommandQueue.retire?_cases left).2.2.2.1
      rw [accepting] at refusing
      cases refusing

theorem Undisturbed.step [Transport σ]
    {site later : SharedQueue σ}
    {action : QueueAction σ}
    (undisturbed : Undisturbed site)
    (labelled : ∀ job ∈ site.queue.waiting, job.strategy.labelCrashes = false)
    (noShutdown : ∀ step, action ≠ .shut step)
    (stepped : site.step? action = some later) :
    Undisturbed later := by
  cases action with
  | enter caller strategy =>
      obtain ⟨_, ⟨_, rfl⟩ | ⟨refusing, _⟩⟩ := enter?_cases stepped
      · exact { undisturbed with }
      · simp [CommandQueue.admits, undisturbed.accepting, undisturbed.closing] at refusing
  | handOver =>
      obtain ⟨caller, strategy, _, ⟨_, rfl⟩ | ⟨gone, _⟩⟩ := handOver?_cases stepped
      · refine { undisturbed with noneRefused := fun other member => ?_ }
        rcases List.mem_cons.1 member with fresh | old
        · cases fresh
        · exact undisturbed.noneRefused other old
      · exact absurd undisturbed.custody gone
  | finishWait caller ticket timeout =>
      obtain ⟨_, rfl⟩ := finishWait?_cases stepped
      refine { undisturbed with noneRefused := fun other member => ?_ }
      rcases List.mem_cons.1 member with fresh | old
      · cases fresh
      · exact undisturbed.noneRefused other old
  | forget caller ticket =>
      have made := forget?_cases stepped
      subst made
      exact { undisturbed with }
  | work step => exact undisturbed.work labelled stepped
  | shut step => exact absurd rfl (noShutdown step)

/-! ### Whole interleavings -/

/-- Everything that holds of a shared queue after some interleaving of these actions. -/
structure Sound (first : σ) (actions : List (QueueAction σ)) (site : SharedQueue σ) : Prop where
  /-- Everything in the queue was handed in. -/
  handedIn : HandedIn actions site
  /-- Callers hold tickets of their own. -/
  own : OwnTickets site
  /-- Callers got answers of their own. -/
  answers : OwnAnswers first site
  /-- The jobs are executed one after another. -/
  serial : ∃ done, Serial first site done

/-- Strategies of accepted jobs were handed in, so their labels do not crash. -/
theorem Sound.labelled
    {first : σ}
    {actions : List (QueueAction σ)}
    {site : SharedQueue σ}
    (sound : Sound first actions site)
    (steady : ∀ caller strategy, .enter caller strategy ∈ actions → strategy.labelCrashes = false) :
    ∀ job ∈ site.jobs, job.strategy.labelCrashes = false := by
  intro job member
  obtain ⟨caller, accepted⟩ := mem_jobs.1 member
  exact steady caller job.strategy (sound.handedIn.accepted caller job accepted)

theorem Sound.step [Transport σ]
    {first : σ}
    {actions : List (QueueAction σ)}
    {action : QueueAction σ}
    {site later : SharedQueue σ}
    (sound : Sound first actions site)
    (steady : ∀ caller strategy, .enter caller strategy ∈ actions → strategy.labelCrashes = false)
    (member : action ∈ actions)
    (stepped : site.step? action = some later) :
    Sound first actions later := by
  have labelled := sound.labelled steady
  obtain ⟨handedIn, own, answers, done, serial⟩ := sound
  exact ⟨handedIn.step member stepped, own.step stepped, answers.step own serial stepped,
    serial.step (fun _ job head => labelled job (serial.mem_jobs_of_head head)) stepped⟩

section Runs

variable [Transport σ]
  {transport : σ}
  {settings : QueueSettings}
  {guard : Option ClaimGuard}
  {registry : ClaimRegistry}
  {actions : List (QueueAction σ)}
  {site : SharedQueue σ}

theorem sound_start : Sound transport actions (start transport settings guard registry) where
  handedIn := ⟨fun _ _ same => (nomatch same), fun _ _ member => (nomatch member)⟩
  own := fun _ _ member => nomatch member
  answers := fun _ _ _ _ member => nomatch member
  serial := ⟨[], serial_start transport settings guard registry⟩

theorem sound_of_run?
    (steady : ∀ caller strategy, .enter caller strategy ∈ actions → strategy.labelCrashes = false)
    (ran : run? actions (start transport settings guard registry) = some site) :
    Sound transport actions site := by
  refine run?_induction (Sound transport actions) sound_start ?_ ran
  intro action member before after sound stepped
  exact sound.step steady member stepped

theorem undisturbed_of_run?
    (steady : ∀ caller strategy, .enter caller strategy ∈ actions → strategy.labelCrashes = false)
    (noShutdown : ∀ step, .shut step ∉ actions)
    (ran : run? actions (start transport settings guard registry) = some site) :
    Sound transport actions site ∧ Undisturbed site := by
  have untouched : Undisturbed (start transport settings guard registry) :=
    ⟨rfl, rfl, rfl, fun _ member => nomatch member⟩
  refine run?_induction (fun site => Sound transport actions site ∧ Undisturbed site)
    ⟨sound_start, untouched⟩ ?_ ran
  rintro action member before after ⟨sound, undisturbed⟩ stepped
  refine ⟨sound.step steady member stepped, undisturbed.step ?_ ?_ stepped⟩
  · obtain ⟨done, serial⟩ := sound.serial
    intro job waiting
    apply sound.labelled steady job
    rw [serial.split]
    exact List.mem_append_right _ waiting
  · rintro step rfl
    exact noShutdown step member

/-- Every interleaving of callers, worker and shutdowns is a serial execution of the accepted
strategies, for all numbers of callers and all strategies whose labels do not crash. The worker
executes them one at a time, each once and in the order of acceptance, with the results of a
serial execution; until it is closed, the transport is the one that this execution leaves. A wait
gives its caller the result of its own strategy or the timeout, and the result once it is posted.
The worker can always go on until every accepted strategy is executed, and without a shutdown no
strategy is refused. -/
theorem interleaving_sequential
    (steady : ∀ caller strategy, .enter caller strategy ∈ actions → strategy.labelCrashes = false)
    (ran : run? actions (start transport settings guard registry) = some site) :
    site.workLog <+: Strategy.serialLog site.accepted transport ∧
    (site.queue.custody ≠ .closed →
      site.queue.transport =
        (Strategy.runAll (site.accepted.take (site.workLog.countP WorkEvent.isEnd)) transport).2) ∧
    (∀ caller ticket timeout answer, .answered caller ticket timeout answer ∈ site.journal →
      (∃ job, .accepted caller job ∈ site.journal ∧ job.ticket = ticket) ∧
        (answer = .error (.queueTimeout timeout) ∨
          (Strategy.runAll site.accepted transport).1[ticket]? = some answer)) ∧
    (∀ ticket timeout, .posted ticket ∈ site.workLog →
      (Strategy.runAll site.accepted transport).1[ticket]? =
        some ((site.queue.reply ticket).answer timeout)) ∧
    (site.workLog = Strategy.serialLog site.accepted transport ∨
      ∃ step later event, site.work? step = some later ∧ later.accepted = site.accepted ∧
        later.workLog = site.workLog ++ [event]) ∧
    ((∀ step, .shut step ∉ actions) → ∀ caller, .refused caller ∉ site.journal) := by
  have sound := sound_of_run? steady ran
  obtain ⟨done, serial⟩ := sound.serial
  refine ⟨serial.workLog_prefix, serial.transport_eq, sound.answers, ?_,
    serial.progress (sound.labelled steady), ?_⟩
  · intro ticket timeout posted
    obtain ⟨result, reply, serially⟩ := serial.reply_of_posted (serial.posted_lt posted)
    rw [reply, serially]
    rfl
  · intro noShutdown
    exact (undisturbed_of_run? steady noShutdown ran).2.noneRefused

end Runs

/-- Two callers: the wait of the first one is given up while its strategy is executed, the
strategy of the second one crashes, and the second one gets the error of its own crash. -/
theorem interleaving_sequential_two_callers :
    let port : SerialPort := { name := "port", line := .quiet [] .silent }
    let writing := Strategy.rehearsed "Writing" (some [0x4C]) (.ok .success)
    let crashing := Strategy.rehearsed "Crashing" (some [0x52]) (.error .crash)
    let actions : List (QueueAction SerialPort) :=
      [.enter 0 writing, .handOver, .work .take, .enter 1 crashing, .finishWait 0 0 .zero,
        .handOver, .work .perform, .work .deliver, .work .take, .work .perform, .work .deliver,
        .finishWait 1 1 .zero]
    ∃ site, run? actions (start port {}) = some site ∧
      (∀ caller strategy, .enter caller strategy ∈ actions → strategy.labelCrashes = false) ∧
      site.workLog <+: Strategy.serialLog site.accepted port ∧
      (Strategy.runAll site.accepted port).1 =
        [.ok .success, .error (.protocol "Crashing panicked")] ∧
      .answered 0 0 .zero (.error (.queueTimeout .zero)) ∈ site.journal ∧
      .answered 1 1 .zero (.error (.protocol "Crashing panicked")) ∈ site.journal := by
  intro port writing crashing actions
  have steady : ∀ caller strategy, .enter caller strategy ∈ actions →
      strategy.labelCrashes = false := by
    intro caller strategy member
    simp only [actions, List.mem_cons, QueueAction.enter.injEq, reduceCtorEq, false_or,
      List.not_mem_nil, or_false] at member
    rcases member with ⟨-, rfl⟩ | ⟨-, rfl⟩
    · rfl
    · rfl
  refine ⟨_, rfl, steady, (interleaving_sequential steady rfl).1, rfl, ?_, ?_⟩
  · exact List.mem_of_getElem? (i := 7) rfl
  · exact List.mem_of_getElem? (i := 0) rfl

end SharedQueue

end DeviceLink
