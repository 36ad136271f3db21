import DeviceLink.Proofs.Queue.Steps
import Mathlib.Data.List.Induction

/-!
# The worker goes through the accepted strategies in order

The serial log of a list of strategies is the work of an execution of them one
after another. In every interleaving the jobs are those whose results are
posted, then the one at hand, then the waiting ones, and what the worker did
is the serial log of the posted ones with the part of the job at hand.
-/

namespace DeviceLink

/-- All work for one ticket. -/
def WorkEvent.whole (ticket : Ticket) (result : StrategyResult) : List WorkEvent :=
  [.began ticket, .ended ticket result, .posted ticket]

/-- An event that ends an execution. -/
def WorkEvent.isEnd : WorkEvent → Bool
  | .ended _ _ => true
  | _ => false

namespace Strategy

variable {σ : Type}

theorem runAll_append
    (first second : List (Strategy σ))
    (transport : σ) :
    runAll (first ++ second) transport =
      ((runAll first transport).1 ++ (runAll second (runAll first transport).2).1,
        (runAll second (runAll first transport).2).2) := by
  induction first generalizing transport with
  | nil => rfl
  | cons strategy others inductionHypothesis =>
      simp only [List.cons_append, runAll, inductionHypothesis]

theorem runAll_concat
    (strategies : List (Strategy σ))
    (last : Strategy σ)
    (transport : σ) :
    runAll (strategies ++ [last]) transport =
      ((runAll strategies transport).1 ++ [(last.run (runAll strategies transport).2).1],
        (last.run (runAll strategies transport).2).2) := by
  rw [runAll_append]
  rfl

@[simp] theorem length_runAll
    (strategies : List (Strategy σ))
    (transport : σ) :
    (runAll strategies transport).1.length = strategies.length := by
  induction strategies generalizing transport with
  | nil => rfl
  | cons strategy others inductionHypothesis =>
      simp [runAll, inductionHypothesis]

/-- Results do not depend on strategies that are executed later. -/
theorem result_lasts
    {first : List (Strategy σ)}
    {transport : σ}
    {index : Nat}
    {result : StrategyResult}
    (earlier : (runAll first transport).1[index]? = some result)
    (second : List (Strategy σ)) :
    (runAll (first ++ second) transport).1[index]? = some result := by
  have within := (List.getElem?_eq_some_iff.1 earlier).1
  rw [runAll_append, List.getElem?_append_left within, earlier]

/-- The work of an execution of strategies one after another. -/
def serialLog (strategies : List (Strategy σ)) (transport : σ) : List WorkEvent :=
  (runAll strategies transport).1.zipIdx.flatMap fun entry => WorkEvent.whole entry.2 entry.1

theorem serialLog_concat
    (strategies : List (Strategy σ))
    (last : Strategy σ)
    (transport : σ) :
    serialLog (strategies ++ [last]) transport =
      serialLog strategies transport ++
        WorkEvent.whole strategies.length (last.run (runAll strategies transport).2).1 := by
  unfold serialLog
  rw [runAll_concat, List.zipIdx_append, List.flatMap_append, length_runAll]
  simp

theorem serialLog_prefix
    (first second : List (Strategy σ))
    (transport : σ) :
    serialLog first transport <+: serialLog (first ++ second) transport := by
  unfold serialLog
  rw [runAll_append, List.zipIdx_append, List.flatMap_append]
  exact List.prefix_append _ _

/-- As many executions end in the serial log as there are strategies. -/
theorem countP_isEnd_serialLog
    (strategies : List (Strategy σ))
    (transport : σ) :
    (serialLog strategies transport).countP WorkEvent.isEnd = strategies.length := by
  induction strategies using List.reverseRecOn with
  | nil => rfl
  | append_singleton strategies last inductionHypothesis =>
      rw [serialLog_concat, List.countP_append, inductionHypothesis]
      simp [WorkEvent.whole, WorkEvent.isEnd, List.countP_cons]

end Strategy

/-- The result of a ticket in a list of numbered results, newest first. -/
theorem lookup_reverse_zipIdx
    (results : List StrategyResult)
    (ticket : Ticket) :
    (results.zipIdx.map Prod.swap).reverse.lookup ticket = results[ticket]? := by
  induction results using List.reverseRecOn with
  | nil => rfl
  | append_singleton results last inductionHypothesis =>
      rw [List.zipIdx_append, List.map_append, List.reverse_append]
      by_cases newest : ticket = results.length
      · subst newest
        simp
      · have other : (ticket == results.length) = false := by simpa using newest
        simp only [List.zipIdx_singleton, Nat.zero_add, List.map_cons, List.map_nil,
          Prod.swap_prod_mk, List.reverse_cons, List.reverse_nil, List.nil_append,
          List.cons_append, List.lookup_cons, other, inductionHypothesis]
        rcases Nat.lt_or_gt_of_ne newest with earlier | later
        · rw [List.getElem?_append_left earlier]
        · have shorter : (results ++ [last]).length ≤ ticket := by
            rw [List.length_append, List.length_singleton]
            exact later
          rw [List.getElem?_eq_none shorter, List.getElem?_eq_none (Nat.le_of_lt later)]

namespace CommandQueue

variable {σ : Type}

/-- The job that the worker is at. -/
def working (queue : CommandQueue σ) : List (Job σ) :=
  match queue.activity with
  | .idle => []
  | .begun job => [job]
  | .settling job _ _ => [job]

theorem working_of_idle
    {queue : CommandQueue σ}
    (activity : queue.activity = .idle) :
    queue.working = [] := by
  rw [working, activity]

theorem working_of_begun
    {queue : CommandQueue σ}
    {job : Job σ}
    (activity : queue.activity = .begun job) :
    queue.working = [job] := by
  rw [working, activity]

theorem working_of_settling
    {queue : CommandQueue σ}
    {job : Job σ}
    {result : StrategyResult}
    {left : Nat}
    (activity : queue.activity = .settling job result left) :
    queue.working = [job] := by
  rw [working, activity]

/-- The current ticket is that of the job that the worker is at. -/
theorem current?_eq (queue : CommandQueue σ) :
    queue.current? = queue.working.head?.map Job.ticket := by
  unfold current? working
  cases queue.activity <;> rfl

end CommandQueue

namespace SharedQueue

variable {σ : Type}

/-- What the transport and the log are while the worker is at its job after those in `done`. -/
def AtWork (first : σ) (site : SharedQueue σ) (done : List (Job σ)) : Prop :=
  let strategies := done.map Job.strategy
  let transport := (Strategy.runAll strategies first).2
  let log := Strategy.serialLog strategies first
  match site.queue.activity with
  | .idle =>
      site.workLog = log ∧ (site.queue.custody ≠ .closed → site.queue.transport = transport)
  | .begun job =>
      site.workLog = log ++ [.began job.ticket] ∧ site.queue.transport = transport
  | .settling job result _ =>
      site.workLog = log ++ [.began job.ticket, .ended job.ticket result] ∧
        job.strategy.run transport = (result, site.queue.transport)

/-- The jobs in `done` were executed one after another from the transport `first`, and their
results are posted; behind them come the job at hand and the waiting ones. -/
structure Serial (first : σ) (site : SharedQueue σ) (done : List (Job σ)) : Prop where
  /-- The tickets of the jobs are their numbers in the order of acceptance. -/
  numbered : site.jobs.map Job.ticket = List.range site.jobs.length
  /-- The next ticket is the number of accepted jobs. -/
  nextTicket : site.queue.nextTicket = site.jobs.length
  /-- The jobs are those done, the one at hand and those that wait, in this order. -/
  split : site.jobs = done ++ site.queue.working ++ site.queue.waiting
  /-- The results are those of a serial execution of the jobs done. -/
  posted : site.queue.results.reverse =
    (Strategy.runAll (done.map Job.strategy) first).1.zipIdx.map Prod.swap
  /-- The worker is where a serial execution would be. -/
  atWork : site.AtWork first done
  /-- A worker that has ended has left nothing behind and gets nothing more. -/
  ended : site.queue.custody ≠ .worker →
    site.queue.activity = .idle ∧ site.queue.waiting = [] ∧ site.queue.accepting = false
  /-- Nobody stands in the entrance once strategies are not let through any more. -/
  entrance : site.queue.accepting = false → site.entering = none

/-- Nothing that a serial execution depends on differs. -/
structure SameWork (before after : SharedQueue σ) : Prop where
  /-- The accepted jobs are the same. -/
  jobs : after.jobs = before.jobs
  /-- The work that was shown is the same. -/
  workLog : after.workLog = before.workLog
  /-- The entrance is as before. -/
  entering : after.entering = before.entering
  /-- The next ticket is the same. -/
  nextTicket : after.queue.nextTicket = before.queue.nextTicket
  /-- The worker does the same. -/
  activity : after.queue.activity = before.queue.activity
  /-- The waiting jobs are the same. -/
  waiting : after.queue.waiting = before.queue.waiting
  /-- The posted results are the same. -/
  results : after.queue.results = before.queue.results
  /-- The transport is in the same state. -/
  transport : after.queue.transport = before.queue.transport
  /-- The transport is in the same hands. -/
  custody : after.queue.custody = before.queue.custody
  /-- Strategies are let through if they were before. -/
  accepting : after.queue.accepting = before.queue.accepting

theorem Serial.of_sameWork
    {first : σ}
    {before after : SharedQueue σ}
    {done : List (Job σ)}
    (serial : Serial first before done)
    (same : SameWork before after) :
    Serial first after done where
  numbered := by
    rw [same.jobs]
    exact serial.numbered
  nextTicket := by
    rw [same.nextTicket, same.jobs]
    exact serial.nextTicket
  split := by
    have sameWorking : after.queue.working = before.queue.working := by
      unfold CommandQueue.working
      rw [same.activity]
    rw [same.jobs, sameWorking, same.waiting]
    exact serial.split
  posted := by
    rw [same.results]
    exact serial.posted
  atWork := by
    have atWork := serial.atWork
    unfold AtWork at atWork ⊢
    rw [same.activity, same.workLog, same.custody, same.transport]
    exact atWork
  ended := by
    rw [same.custody, same.activity, same.waiting, same.accepting]
    exact serial.ended
  entrance := by
    rw [same.accepting, same.entering]
    exact serial.entrance

theorem serial_start [Transport σ]
    (transport : σ)
    (settings : QueueSettings)
    (guard : Option ClaimGuard)
    (registry : ClaimRegistry) :
    Serial transport (start transport settings guard registry) [] where
  numbered := rfl
  nextTicket := rfl
  split := rfl
  posted := rfl
  atWork := ⟨rfl, fun _ => rfl⟩
  ended := fun gone => absurd rfl gone
  entrance := fun _ => rfl

section Steps

variable {first : σ} {site later : SharedQueue σ} {done : List (Job σ)}

/-- What shows of a posting is the ticket of the job at hand. -/
theorem deliveredEvent_of_settling
    {queue : CommandQueue σ}
    {job : Job σ}
    {result : StrategyResult}
    {left : Nat}
    (activity : queue.activity = .settling job result left) :
    deliveredEvent queue = .worked (.posted job.ticket) := by
  unfold deliveredEvent CommandQueue.current?
  rw [activity]

theorem jobs_worked
    (queue : CommandQueue σ)
    (event : WorkEvent) :
    (note (.worked event) { site with queue := queue }).jobs = site.jobs := by
  rw [jobs_note]
  exact List.append_nil _

theorem workLog_worked
    (queue : CommandQueue σ)
    (event : WorkEvent) :
    (note (.worked event) { site with queue := queue }).workLog = site.workLog ++ [event] := by
  rw [workLog_note]
  rfl

/-- An event that neither accepts a job nor shows work leaves the work as it is. -/
theorem sameWork_note
    {event : QueueEvent σ}
    (noJob : event.job? = none)
    (noWork : event.work? = none) :
    SameWork site (site.note event) where
  jobs := by rw [jobs_note, noJob, Option.toList_none, List.append_nil]
  workLog := by rw [workLog_note, noWork, Option.toList_none, List.append_nil]
  entering := rfl
  nextTicket := rfl
  activity := rfl
  waiting := rfl
  results := rfl
  transport := rfl
  custody := rfl
  accepting := rfl

theorem Serial.enter
    {caller : Caller}
    {strategy : Strategy σ}
    (serial : Serial first site done)
    (entered : site.enter? caller strategy = some later) :
    Serial first later done := by
  obtain ⟨_, ⟨opened, rfl⟩ | ⟨_, rfl⟩⟩ := enter?_cases entered
  · refine { serial with entrance := ?_ }
    intro refusing
    have accepting : site.queue.accepting = false := refusing
    simp [CommandQueue.admits, accepting] at opened
  · exact serial.of_sameWork (sameWork_note rfl rfl)

/-- The job that is handed over waits behind all others. -/
theorem Serial.handOver
    (serial : Serial first site done)
    (handed : site.handOver? = some later) :
    Serial first later done := by
  obtain ⟨caller, strategy, entering, ⟨custody, made⟩ | ⟨_, rfl⟩⟩ := handOver?_cases handed
  · have jobs : later.jobs = site.jobs ++ [⟨site.queue.nextTicket, strategy⟩] := by
      rw [made, jobs_note]
      rfl
    have workLog : later.workLog = site.workLog := by
      rw [made, workLog_note]
      exact List.append_nil _
    have atWork := serial.atWork
    unfold AtWork at atWork
    rw [← workLog] at atWork
    have split : later.jobs = done ++ site.queue.working ++
        (site.queue.waiting ++ [⟨site.queue.nextTicket, strategy⟩]) := by
      rw [jobs, serial.split, List.append_assoc]
    subst made
    refine ⟨?_, ?_, split, serial.posted, atWork, fun gone => absurd custody gone, fun _ => rfl⟩
    · rw [jobs, List.map_append, serial.numbered, List.length_append, List.length_singleton,
        List.range_succ, serial.nextTicket]
      rfl
    · change site.queue.nextTicket + 1 = _
      rw [jobs, List.length_append, List.length_singleton, serial.nextTicket]
  · have kept : Serial first { site with entering := none } done :=
      { serial with entrance := fun _ => rfl }
    exact kept.of_sameWork (sameWork_note rfl rfl)

/-- The job at hand has the number of jobs before it as its ticket. -/
theorem Serial.ticket_of_working
    {job : Job σ}
    (serial : Serial first site done)
    (working : site.queue.working = [job]) :
    job.ticket = done.length := by
  have found : site.jobs[done.length]? = some job := by
    rw [serial.split, working, List.append_assoc,
      List.getElem?_append_right (Nat.le_refl _), Nat.sub_self]
    rfl
  have within : done.length < site.jobs.length := (List.getElem?_eq_some_iff.1 found).1
  have numbered : (site.jobs.map Job.ticket)[done.length]? = some done.length := by
    rw [serial.numbered, List.getElem?_range within]
  rw [List.getElem?_map, found] at numbered
  exact Option.some.inj numbered

/-- A worker that is at a job has the transport. -/
theorem Serial.custody_of_working
    {job : Job σ}
    (serial : Serial first site done)
    (working : site.queue.working = [job]) :
    site.queue.custody = .worker := by
  by_contra gone
  unfold CommandQueue.working at working
  rw [(serial.ended gone).1] at working
  cases working

/-- Taking a job begins its execution, as long as its label does not crash. -/
theorem Serial.take
    (serial : Serial first site done)
    (labelled : ∀ job ∈ site.queue.waiting.head?, job.strategy.labelCrashes = false)
    (taken : site.work? .take = some later) :
    Serial first later done := by
  obtain ⟨queue, begun, made⟩ := Option.map_eq_some_iff.1 taken
  obtain ⟨custody, idle, job, others, waiting, ⟨crashes, _⟩ | ⟨_, rfl⟩⟩ :=
    CommandQueue.begin?_cases begun
  · rw [labelled job (by simp [waiting])] at crashes
    cases crashes
  have noWork := CommandQueue.working_of_idle idle
  have jobs : later.jobs = site.jobs := by
    rw [← made]
    exact jobs_worked _ _
  have workLog : later.workLog = site.workLog ++ [.began job.ticket] := by
    rw [← made]
    exact workLog_worked _ _
  have split : later.jobs = done ++ [job] ++ others := by
    rw [jobs, serial.split, noWork, waiting]
    simp
  have atWork := serial.atWork
  unfold AtWork at atWork
  rw [idle] at atWork
  obtain ⟨log, transport⟩ := atWork
  rw [log] at workLog
  subst made
  refine ⟨?_, ?_, split, serial.posted, ⟨workLog, transport ?_⟩, fun gone => absurd custody gone,
    serial.entrance⟩
  · rw [jobs]
    exact serial.numbered
  · rw [jobs]
    exact serial.nextTicket
  · rw [custody]
    exact Custody.noConfusion

/-- Executing the job at hand changes the transport as a serial execution does. -/
theorem Serial.perform
    (serial : Serial first site done)
    (performed : site.work? .perform = some later) :
    Serial first later done := by
  obtain ⟨queue, executed, made⟩ := Option.map_eq_some_iff.1 performed
  obtain ⟨job, activity, rfl⟩ := CommandQueue.perform?_cases executed
  have working := CommandQueue.working_of_begun activity
  have custody := serial.custody_of_working working
  have jobs : later.jobs = site.jobs := by
    rw [← made]
    exact jobs_worked _ _
  have workLog : later.workLog = site.workLog ++
      [.ended job.ticket (job.strategy.run site.queue.transport).1] := by
    rw [← made]
    exact workLog_worked _ _
  have split : later.jobs = done ++ [job] ++ site.queue.waiting := by
    rw [jobs, serial.split, working]
  have atWork := serial.atWork
  unfold AtWork at atWork
  rw [activity] at atWork
  obtain ⟨log, transport⟩ := atWork
  rw [log, List.append_assoc] at workLog
  subst made
  refine ⟨?_, ?_, split, serial.posted, ⟨workLog, ?_⟩, fun gone => absurd custody gone,
    serial.entrance⟩
  · rw [jobs]
    exact serial.numbered
  · rw [jobs]
    exact serial.nextTicket
  · rw [← transport]
    rfl

/-- Posting the result of the job at hand completes its part of the serial log. -/
theorem Serial.deliver
    (serial : Serial first site done)
    (delivered : site.work? .deliver = some later) :
    ∃ job, Serial first later (done ++ [job]) := by
  obtain ⟨queue, posted, made⟩ := Option.map_eq_some_iff.1 delivered
  obtain ⟨job, result, left, activity, rfl⟩ := CommandQueue.deliver?_cases posted
  have working := CommandQueue.working_of_settling activity
  have ticket := serial.ticket_of_working working
  have custody := serial.custody_of_working working
  have shown := deliveredEvent_of_settling activity
  have jobs : later.jobs = site.jobs := by
    rw [← made, shown]
    exact jobs_worked _ _
  have workLog : later.workLog = site.workLog ++ [.posted job.ticket] := by
    rw [← made, shown]
    exact workLog_worked _ _
  have split : later.jobs = done ++ [job] ++ [] ++ site.queue.waiting := by
    rw [jobs, serial.split, working, List.append_nil]
  have atWork := serial.atWork
  unfold AtWork at atWork
  rw [activity] at atWork
  obtain ⟨log, ran⟩ := atWork
  have strategies :
      (done ++ [job]).map Job.strategy = done.map Job.strategy ++ [job.strategy] := by
    rw [List.map_append]
    rfl
  subst made
  refine ⟨job, ?_, ?_, split, ?_, ⟨?_, fun _ => ?_⟩, fun gone => absurd custody gone,
    serial.entrance⟩
  · rw [jobs]
    exact serial.numbered
  · rw [jobs]
    exact serial.nextTicket
  · change ((job.ticket, result) :: site.queue.results).reverse = _
    rw [List.reverse_cons, serial.posted, strategies, Strategy.runAll_concat, ran,
      List.zipIdx_append, List.map_append, Strategy.length_runAll, List.length_map, ticket]
    simp
  · rw [workLog, log, strategies, Strategy.serialLog_concat, ran, List.length_map, ticket,
      List.append_assoc]
    rfl
  · rw [strategies, Strategy.runAll_concat, ran]
    rfl

theorem Serial.retire
    (serial : Serial first site done)
    (retired : site.work? .retire = some later) :
    Serial first later done := by
  obtain ⟨queue, left, made⟩ := Option.map_eq_some_iff.1 retired
  obtain ⟨custody, idle, waiting, refusing, rfl⟩ := CommandQueue.retire?_cases left
  have kept : Serial first { site with queue := { site.queue with
      custody := if site.queue.abandoned then .lost else .returned } } done := by
    refine { serial with atWork := ?_, ended := fun _ => ⟨idle, waiting, refusing⟩ }
    have atWork := serial.atWork
    unfold AtWork at atWork ⊢
    rw [idle] at atWork
    simp only [idle]
    refine ⟨atWork.1, fun _ => atWork.2 ?_⟩
    rw [custody]
    exact Custody.noConfusion
  rw [← made]
  exact kept.of_sameWork (sameWork_note rfl rfl)

/-- A shutdown leaves the work alone; it closes the transport only after the worker ended. -/
theorem Serial.shut [Transport σ]
    {step : ShutdownStep}
    (serial : Serial first site done)
    (shut : site.shut? step = some later) :
    Serial first later done := by
  cases step with
  | request =>
      obtain ⟨_, rfl⟩ | ⟨_, rfl⟩ := request_cases shut
      · exact serial
      · exact { serial with }
  | hangUp =>
      obtain ⟨_, free, rfl⟩ := hangUp_cases shut
      refine { serial with ended := fun gone => ?_, entrance := fun _ => free }
      exact ⟨(serial.ended gone).1, (serial.ended gone).2.1, rfl⟩
  | receive =>
      obtain ⟨_, _, rfl⟩ := receive_cases shut
      exact { serial with }
  | giveUp =>
      obtain ⟨_, _, rfl⟩ := giveUp_cases shut
      exact { serial with }
  | release =>
      obtain ⟨_, rfl⟩ := release_cases shut
      exact { serial with }
  | close =>
      obtain ⟨_, ⟨custody, rfl⟩ | ⟨_, rfl⟩⟩ := close_cases shut
      · have gone : site.queue.custody ≠ .worker := by
          rw [custody]
          exact Custody.noConfusion
        obtain ⟨idle, waiting, refusing⟩ := serial.ended gone
        have atWork := serial.atWork
        unfold AtWork at atWork
        rw [idle] at atWork
        have kept : Serial first { site with
            queue := { site.queue with
              transport := (Transport.close site.queue.transport).2
              custody := .closed }
            stage := .ended } done := by
          refine { serial with atWork := ?_, ended := fun _ => ⟨idle, waiting, refusing⟩ }
          unfold AtWork
          simp only [idle]
          exact ⟨atWork.1, fun opened => absurd rfl opened⟩
        exact kept.of_sameWork (sameWork_note rfl rfl)
      · exact { serial with }

/-- The first job in line is an accepted one. -/
theorem Serial.mem_jobs_of_head
    {job : Job σ}
    (serial : Serial first site done)
    (head : job ∈ site.queue.waiting.head?) :
    job ∈ site.jobs := by
  rw [serial.split]
  exact List.mem_append_right _ (List.mem_of_mem_head? head)

/-- Every step keeps the work serial, as long as no job is taken whose label crashes. -/
theorem Serial.step [Transport σ]
    {action : QueueAction σ}
    (serial : Serial first site done)
    (labelled : action = .work .take →
      ∀ job ∈ site.queue.waiting.head?, job.strategy.labelCrashes = false)
    (stepped : site.step? action = some later) :
    ∃ posted, Serial first later posted := by
  cases action with
  | enter caller strategy => exact ⟨done, serial.enter stepped⟩
  | handOver => exact ⟨done, serial.handOver stepped⟩
  | finishWait caller ticket timeout =>
      obtain ⟨_, rfl⟩ := finishWait?_cases stepped
      have kept : Serial first
          { site with held := site.held.erase (caller, ticket) } done := { serial with }
      exact ⟨done, kept.of_sameWork (sameWork_note rfl rfl)⟩
  | forget caller ticket =>
      have made := forget?_cases stepped
      subst made
      exact ⟨done, { serial with }⟩
  | work step =>
      cases step with
      | take => exact ⟨done, serial.take (labelled rfl) stepped⟩
      | perform => exact ⟨done, serial.perform stepped⟩
      | deliver =>
          obtain ⟨job, posted⟩ := serial.deliver stepped
          exact ⟨done ++ [job], posted⟩
      | retire => exact ⟨done, serial.retire stepped⟩
  | shut step => exact ⟨done, serial.shut stepped⟩

end Steps

end SharedQueue

end DeviceLink
