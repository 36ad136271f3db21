import DeviceLink.Proofs.Queue.Once

/-!
# Shutdowns of a shared queue

The transport is closed at most once, when all work on all accepted jobs is
done, and nothing is accepted or worked on behind the close. Once a shutdown
has begun every caller that comes is refused; the only strategy that can still
be accepted is the one that was in the entrance. A request after the first one
changes nothing.
-/

namespace DeviceLink

namespace QueueEvent

variable {σ : Type}

/-- The caller that an event refuses. -/
def refused? : QueueEvent σ → Option Caller
  | refused caller => some caller
  | _ => none

/-- The transport is closed. -/
def isClose : QueueEvent σ → Bool
  | closed _ => true
  | _ => false

/-- An event that accepts no job, shows no work and closes nothing. -/
structure IsQuiet (event : QueueEvent σ) : Prop where
  /-- No job is accepted. -/
  noJob : event.job? = none
  /-- No work is shown. -/
  noWork : event.work? = none
  /-- Nothing is closed. -/
  noClose : event.isClose = false

end QueueEvent

namespace QueueAction

variable {σ : Type}

/-- The caller that comes to the entrance in a step. -/
def comer? : QueueAction σ → Option Caller
  | enter caller _ => some caller
  | _ => none

/-- A step that asks for the shutdown. -/
def isRequest : QueueAction σ → Bool
  | shut .request => true
  | _ => false

theorem isRequest_iff {action : QueueAction σ} :
    action.isRequest = true ↔ action = .shut .request := by
  cases action with
  | shut step =>
      cases step with
      | _ => simp [isRequest]
  | _ => simp [isRequest]

/-- The steps without the requests for a shutdown behind the first one. -/
def withoutRepeats : List (QueueAction σ) → List (QueueAction σ)
  | [] => []
  | action :: actions =>
      if action.isRequest then action :: actions.filter fun other => !other.isRequest
      else action :: withoutRepeats actions

end QueueAction

namespace SharedQueue

variable {σ : Type}

/-- The callers that were refused, the earliest first. -/
def refusals (site : SharedQueue σ) : List Caller :=
  site.journal.reverse.filterMap QueueEvent.refused?

@[simp] theorem refusals_note (event : QueueEvent σ) (site : SharedQueue σ) :
    (site.note event).refusals = site.refusals ++ event.refused?.toList := by
  cases event <;> simp [refusals, note, QueueEvent.refused?]

/-- Events that a view does not show may be left out of a journal. -/
theorem filterMap_reverse_hidden
    {β : Type}
    {view : QueueEvent σ → Option β}
    {events : List (QueueEvent σ)}
    (hidden : ∀ event ∈ events, view event = none)
    (before : List (QueueEvent σ)) :
    (events ++ before).reverse.filterMap view = before.reverse.filterMap view := by
  have nothing : events.reverse.filterMap view = [] :=
    List.filterMap_eq_nil_iff.2 fun event member => hidden event (List.mem_reverse.1 member)
  rw [List.reverse_append, List.filterMap_append, nothing, List.append_nil]

/-! ## What steps leave alone -/

section Steps

variable {first : σ} {site later : SharedQueue σ} {done : List (Job σ)}

/-- A step of the worker shows something that is neither an acceptance, a refusal nor a close. -/
theorem work?_shows
    {step : WorkerStep}
    (worked : site.work? step = some later) :
    ∃ queue event, later = note event { site with queue := queue } ∧
      event.job? = none ∧ event.refused? = none ∧ event.isClose = false ∧
      queue.closing = site.queue.closing := by
  cases step with
  | take =>
      obtain ⟨queue, begun, made⟩ := Option.map_eq_some_iff.1 worked
      refine ⟨queue, takenEvent queue, made.symm, ?_⟩
      obtain ⟨_, _, job, others, _, ⟨_, rfl⟩ | ⟨_, rfl⟩⟩ := CommandQueue.begin?_cases begun
      all_goals
        unfold takenEvent
        split
        · exact ⟨rfl, rfl, rfl, rfl⟩
        · exact ⟨rfl, rfl, rfl, rfl⟩
  | perform =>
      obtain ⟨queue, executed, made⟩ := Option.map_eq_some_iff.1 worked
      obtain ⟨job, _, rfl⟩ := CommandQueue.perform?_cases executed
      exact ⟨_, _, made.symm, rfl, rfl, rfl, rfl⟩
  | deliver =>
      obtain ⟨queue, posted, made⟩ := Option.map_eq_some_iff.1 worked
      obtain ⟨job, result, left, activity, rfl⟩ := CommandQueue.deliver?_cases posted
      rw [deliveredEvent_of_settling activity] at made
      exact ⟨_, _, made.symm, rfl, rfl, rfl, rfl⟩
  | retire =>
      obtain ⟨queue, left, made⟩ := Option.map_eq_some_iff.1 worked
      obtain ⟨_, _, _, _, rfl⟩ := CommandQueue.retire?_cases left
      exact ⟨_, _, made.symm, rfl, rfl, rfl, rfl⟩

/-- The worker steps only while it has the transport, and it never closes it. -/
theorem Serial.custody_of_work?
    {step : WorkerStep}
    (serial : Serial first site done)
    (worked : site.work? step = some later) :
    site.queue.custody = .worker ∧ later.queue.custody ≠ .closed := by
  have kept : ∀ {queue : CommandQueue σ}, queue.custody = .worker → queue.custody ≠ .closed := by
    intro queue custody
    rw [custody]
    exact Custody.noConfusion
  cases step with
  | take =>
      obtain ⟨queue, begun, rfl⟩ := Option.map_eq_some_iff.1 worked
      obtain ⟨custody, _, job, others, _, ⟨_, rfl⟩ | ⟨_, rfl⟩⟩ := CommandQueue.begin?_cases begun
      · exact ⟨custody, Custody.noConfusion⟩
      · exact ⟨custody, kept custody⟩
  | perform =>
      obtain ⟨queue, executed, rfl⟩ := Option.map_eq_some_iff.1 worked
      obtain ⟨job, activity, rfl⟩ := CommandQueue.perform?_cases executed
      have custody := serial.custody_of_working (CommandQueue.working_of_begun activity)
      exact ⟨custody, kept custody⟩
  | deliver =>
      obtain ⟨queue, posted, rfl⟩ := Option.map_eq_some_iff.1 worked
      obtain ⟨job, result, left, activity, rfl⟩ := CommandQueue.deliver?_cases posted
      have custody := serial.custody_of_working (CommandQueue.working_of_settling activity)
      exact ⟨custody, kept custody⟩
  | retire =>
      obtain ⟨queue, left, rfl⟩ := Option.map_eq_some_iff.1 worked
      obtain ⟨custody, _, _, _, rfl⟩ := CommandQueue.retire?_cases left
      refine ⟨custody, ?_⟩
      change (if site.queue.abandoned then Custody.lost else Custody.returned) ≠ .closed
      split
      · exact Custody.noConfusion
      · exact Custody.noConfusion

/-- A step of a shutdown leaves the entrance alone, and it shows at most the close of a transport
that the worker returned. -/
theorem shut?_shows [Transport σ]
    {step : ShutdownStep}
    (shut : site.shut? step = some later) :
    later.entering = site.entering ∧
      (site.queue.closing = true → later.queue.closing = true) ∧
      ((later.journal = site.journal ∧ later.queue.custody = site.queue.custody) ∨
        ∃ outcome, later.journal = .closed outcome :: site.journal ∧
          site.queue.custody = .returned ∧ later.queue.custody = .closed) := by
  cases step with
  | request =>
      obtain ⟨_, rfl⟩ | ⟨_, rfl⟩ := request_cases shut
      · exact ⟨rfl, id, .inl ⟨rfl, rfl⟩⟩
      · exact ⟨rfl, fun _ => rfl, .inl ⟨rfl, rfl⟩⟩
  | hangUp =>
      obtain ⟨_, _, rfl⟩ := hangUp_cases shut
      exact ⟨rfl, id, .inl ⟨rfl, rfl⟩⟩
  | receive =>
      obtain ⟨_, _, rfl⟩ := receive_cases shut
      exact ⟨rfl, id, .inl ⟨rfl, rfl⟩⟩
  | giveUp =>
      obtain ⟨_, _, rfl⟩ := giveUp_cases shut
      exact ⟨rfl, id, .inl ⟨rfl, rfl⟩⟩
  | release =>
      obtain ⟨_, rfl⟩ := release_cases shut
      exact ⟨rfl, id, .inl ⟨rfl, rfl⟩⟩
  | close =>
      obtain ⟨_, ⟨custody, rfl⟩ | ⟨_, rfl⟩⟩ := close_cases shut
      · exact ⟨rfl, id, .inr ⟨_, rfl, custody, rfl⟩⟩
      · exact ⟨rfl, id, .inl ⟨rfl, rfl⟩⟩

/-- A shutdown that has begun is never taken back. -/
theorem closing_of_step? [Transport σ]
    {action : QueueAction σ}
    (closing : site.queue.closing = true)
    (stepped : site.step? action = some later) :
    later.queue.closing = true := by
  cases action with
  | enter caller strategy =>
      obtain ⟨_, ⟨_, rfl⟩ | ⟨_, rfl⟩⟩ := enter?_cases stepped
      · exact closing
      · exact closing
  | handOver =>
      obtain ⟨caller, strategy, _, ⟨_, rfl⟩ | ⟨_, rfl⟩⟩ := handOver?_cases stepped
      · exact closing
      · exact closing
  | finishWait caller ticket timeout =>
      obtain ⟨_, rfl⟩ := finishWait?_cases stepped
      exact closing
  | forget caller ticket =>
      have made := forget?_cases stepped
      subst made
      exact closing
  | work step =>
      obtain ⟨queue, event, rfl, -, -, -, same⟩ := work?_shows stepped
      exact same.trans closing
  | shut step => exact (shut?_shows stepped).2.1 closing

end Steps

/-! ## The transport is closed once, behind all work -/

/-- The transport was not closed, or it was closed once and only quiet events came behind. -/
inductive CloseHistory (site : SharedQueue σ) : Prop
  | unclosed
      (custody : site.queue.custody ≠ .closed)
      (noClose : ∀ event ∈ site.journal, event.isClose = false)
  | closed
      {after before : List (QueueEvent σ)}
      {outcome : Except LinkError Unit}
      (custody : site.queue.custody = .closed)
      (journal : site.journal = after ++ .closed outcome :: before)
      (quiet : ∀ event ∈ after, event.IsQuiet)
      (noClose : ∀ event ∈ before, event.isClose = false)

namespace CloseHistory

variable {first : σ} {site later : SharedQueue σ} {done : List (Job σ)}

theorem noClose_of_unclosed
    (history : CloseHistory site)
    (unclosed : site.queue.custody ≠ .closed) :
    ∀ event ∈ site.journal, event.isClose = false := by
  cases history with
  | unclosed _ noClose => exact noClose
  | closed custody _ _ _ => exact absurd custody unclosed

/-- Quiet events may come at any time. -/
theorem of_quiet
    (history : CloseHistory site)
    (events : List (QueueEvent σ))
    (custody : later.queue.custody = site.queue.custody)
    (journal : later.journal = events ++ site.journal)
    (quiet : ∀ event ∈ events, event.IsQuiet) :
    CloseHistory later := by
  cases history with
  | unclosed open_ noClose =>
      refine .unclosed (custody ▸ open_) ?_
      rw [journal]
      exact List.forall_mem_append.2 ⟨fun event member => (quiet event member).noClose, noClose⟩
  | closed shut before quietSoFar noClose =>
      rw [before, ← List.append_assoc] at journal
      exact .closed (custody.trans shut) journal
        (List.forall_mem_append.2 ⟨quiet, quietSoFar⟩) noClose

/-- Before the close anything but a close may come. -/
theorem of_unclosed
    {event : QueueEvent σ}
    (history : CloseHistory site)
    (unclosed : site.queue.custody ≠ .closed)
    (stillUnclosed : later.queue.custody ≠ .closed)
    (journal : later.journal = event :: site.journal)
    (noClose : event.isClose = false) :
    CloseHistory later := by
  refine .unclosed stillUnclosed ?_
  rw [journal]
  exact List.forall_mem_cons.2 ⟨noClose, history.noClose_of_unclosed unclosed⟩

theorem shut [Transport σ]
    {step : ShutdownStep}
    (history : CloseHistory site)
    (shut : site.shut? step = some later) :
    CloseHistory later := by
  obtain ⟨_, _, ⟨journal, custody⟩ | ⟨outcome, journal, returned, closed⟩⟩ := shut?_shows shut
  · exact history.of_quiet [] custody journal (by simp)
  · have unclosed : site.queue.custody ≠ .closed := by
      rw [returned]
      exact Custody.noConfusion
    rw [← List.nil_append (_ :: _)] at journal
    exact .closed closed journal (by simp) (history.noClose_of_unclosed unclosed)

theorem step [Transport σ]
    {action : QueueAction σ}
    (history : CloseHistory site)
    (serial : Serial first site done)
    (stepped : site.step? action = some later) :
    CloseHistory later := by
  have unclosed : site.queue.custody = .worker → site.queue.custody ≠ .closed := by
    intro custody
    rw [custody]
    exact Custody.noConfusion
  cases action with
  | enter caller strategy =>
      obtain ⟨_, ⟨_, rfl⟩ | ⟨_, rfl⟩⟩ := enter?_cases stepped
      · exact history.of_quiet [] rfl rfl (by simp)
      · exact history.of_quiet [.refused caller] rfl rfl
          (List.forall_mem_singleton.2 ⟨rfl, rfl, rfl⟩)
  | handOver =>
      obtain ⟨caller, strategy, _, ⟨custody, rfl⟩ | ⟨_, rfl⟩⟩ := handOver?_cases stepped
      · exact history.of_unclosed (unclosed custody) (unclosed custody) rfl rfl
      · exact history.of_quiet [.refused caller] rfl rfl
          (List.forall_mem_singleton.2 ⟨rfl, rfl, rfl⟩)
  | finishWait caller ticket timeout =>
      obtain ⟨_, rfl⟩ := finishWait?_cases stepped
      exact history.of_quiet [_] rfl rfl
        (List.forall_mem_singleton.2 ⟨rfl, rfl, rfl⟩)
  | forget caller ticket =>
      have made := forget?_cases stepped
      subst made
      exact history.of_quiet [] rfl rfl (by simp)
  | work step =>
      obtain ⟨custody, stillUnclosed⟩ := serial.custody_of_work? stepped
      obtain ⟨queue, event, rfl, -, -, noClose, -⟩ := work?_shows stepped
      exact history.of_unclosed (unclosed custody) stillUnclosed rfl noClose
  | shut step => exact history.shut stepped

end CloseHistory

/-- What a close that happened came behind: all work for all accepted strategies. -/
theorem Serial.workLog_before_close
    {first : σ}
    {site : SharedQueue σ}
    {done : List (Job σ)}
    {after before : List (QueueEvent σ)}
    {outcome : Except LinkError Unit}
    (serial : Serial first site done)
    (custody : site.queue.custody = .closed)
    (journal : site.journal = after ++ .closed outcome :: before)
    (quiet : ∀ event ∈ after, event.IsQuiet) :
    before.reverse.filterMap QueueEvent.work? = Strategy.serialLog site.accepted first ∧
      before.reverse.filterMap QueueEvent.job? = site.jobs := by
  have gone : site.queue.custody ≠ .worker := by
    rw [custody]
    exact Custody.noConfusion
  have noWork : ∀ event ∈ after ++ [.closed outcome], event.work? = none :=
    List.forall_mem_append.2
      ⟨fun event member => (quiet event member).noWork, List.forall_mem_singleton.2 rfl⟩
  have noJob : ∀ event ∈ after ++ [.closed outcome], event.job? = none :=
    List.forall_mem_append.2
      ⟨fun event member => (quiet event member).noJob, List.forall_mem_singleton.2 rfl⟩
  rw [List.append_cons] at journal
  refine ⟨?_, ?_⟩
  · rw [← serial.workLog_of_ended gone, workLog, journal, filterMap_reverse_hidden noWork]
  · rw [jobs, journal, filterMap_reverse_hidden noJob]

/-! ## Nobody is admitted once a shutdown has begun -/

/-- What callers met since a shutdown had begun at `mid`: those who came were refused, and only
the strategy that was in the entrance may have been accepted. -/
structure AfterClosing (mid : SharedQueue σ) (comers : List Caller) (site : SharedQueue σ) :
    Prop where
  /-- The shutdown is still known to have begun. -/
  closing : site.queue.closing = true
  /-- All who came since were refused. -/
  refusals : site.refusals = mid.refusals ++ comers
  /-- Nobody was accepted but perhaps the caller that was in the entrance. -/
  admission :
    (site.entering = mid.entering ∧ site.jobs = mid.jobs) ∨
    (site.entering = none ∧ ∃ caller strategy, mid.entering = some (caller, strategy) ∧
      site.jobs = mid.jobs ++ [⟨mid.jobs.length, strategy⟩])

namespace AfterClosing

variable {first : σ} {mid site later : SharedQueue σ} {comers : List Caller}
  {done : List (Job σ)}

/-- A step that shows neither an acceptance nor a refusal and leaves the entrance alone. -/
theorem of_hidden
    (since : AfterClosing mid comers site)
    (events : List (QueueEvent σ))
    (closing : later.queue.closing = true)
    (entering : later.entering = site.entering)
    (journal : later.journal = events ++ site.journal)
    (hidden : ∀ event ∈ events, event.job? = none ∧ event.refused? = none) :
    AfterClosing mid (comers ++ []) later := by
  have jobs : later.jobs = site.jobs := by
    rw [SharedQueue.jobs, journal]
    exact filterMap_reverse_hidden (fun event member => (hidden event member).1) _
  refine ⟨closing, ?_, ?_⟩
  · rw [SharedQueue.refusals, journal, List.append_nil, ← since.refusals]
    exact filterMap_reverse_hidden (fun event member => (hidden event member).2) _
  · rw [entering, jobs]
    exact since.admission

theorem enter
    {caller : Caller}
    {strategy : Strategy σ}
    (since : AfterClosing mid comers site)
    (entered : site.enter? caller strategy = some later) :
    AfterClosing mid (comers ++ [caller]) later := by
  obtain ⟨_, ⟨opened, _⟩ | ⟨_, rfl⟩⟩ := enter?_cases entered
  · simp [CommandQueue.admits, since.closing] at opened
  · refine ⟨since.closing, ?_, ?_⟩
    · rw [refusals_note, since.refusals, List.append_assoc]
      rfl
    · have sameJobs : (site.note (.refused caller)).jobs = site.jobs := by
        rw [jobs_note]
        exact List.append_nil _
      rw [sameJobs]
      exact since.admission

/-- The worker does not end while a strategy is in the entrance, so that strategy is accepted. -/
theorem handOver
    (since : AfterClosing mid comers site)
    (serial : Serial first site done)
    (handed : site.handOver? = some later) :
    AfterClosing mid (comers ++ []) later := by
  obtain ⟨caller, strategy, entering, ⟨_, rfl⟩ | ⟨gone, _⟩⟩ := handOver?_cases handed
  · obtain ⟨sameEntrance, sameJobs⟩ | ⟨free, _⟩ := since.admission
    · refine ⟨since.closing, ?_, .inr ⟨rfl, caller, strategy, ?_, ?_⟩⟩
      · rw [refusals_note, List.append_nil, ← since.refusals]
        exact List.append_nil _
      · rw [← sameEntrance]
        exact entering
      · rw [jobs_note, serial.nextTicket, ← sameJobs]
        rfl
    · rw [free] at entering
      cases entering
  · have free := serial.entrance (serial.ended gone).2.2
    rw [free] at entering
    cases entering

theorem step [Transport σ]
    {action : QueueAction σ}
    (since : AfterClosing mid comers site)
    (serial : Serial first site done)
    (stepped : site.step? action = some later) :
    AfterClosing mid (comers ++ action.comer?.toList) later := by
  have closing := closing_of_step? since.closing stepped
  cases action with
  | enter caller strategy => exact since.enter stepped
  | handOver => exact since.handOver serial stepped
  | finishWait caller ticket timeout =>
      obtain ⟨_, rfl⟩ := finishWait?_cases stepped
      exact since.of_hidden [_] closing rfl rfl (List.forall_mem_singleton.2 ⟨rfl, rfl⟩)
  | forget caller ticket =>
      have made := forget?_cases stepped
      subst made
      exact since.of_hidden [] closing rfl rfl (by simp)
  | work step =>
      obtain ⟨queue, event, rfl, noJob, noRefusal, -, -⟩ := work?_shows stepped
      exact since.of_hidden [event] closing rfl rfl
        (List.forall_mem_singleton.2 ⟨noJob, noRefusal⟩)
  | shut step =>
      obtain ⟨entering, _, ⟨journal, _⟩ | ⟨outcome, journal, _⟩⟩ := shut?_shows stepped
      · exact since.of_hidden [] closing entering journal (by simp)
      · exact since.of_hidden [.closed outcome] closing entering journal
          (List.forall_mem_singleton.2 ⟨rfl, rfl⟩)

theorem run [Transport σ]
    {actions late : List (QueueAction σ)}
    (since : AfterClosing mid comers site)
    (sound : Sound first actions site)
    (steady : ∀ caller strategy, .enter caller strategy ∈ actions → strategy.labelCrashes = false)
    (members : ∀ action ∈ late, action ∈ actions)
    (ran : run? late site = some later) :
    AfterClosing mid (comers ++ late.filterMap QueueAction.comer?) later := by
  induction late generalizing site comers with
  | nil =>
      cases ran
      rw [List.filterMap_nil, List.append_nil]
      exact since
  | cons action late inductionHypothesis =>
      obtain ⟨next, stepped, rest⟩ := Option.bind_eq_some_iff.1 ran
      obtain ⟨member, others⟩ := List.forall_mem_cons.1 members
      obtain ⟨done, serial⟩ := sound.serial
      have onward := inductionHypothesis (since.step serial stepped)
        (sound.step steady member stepped) others rest
      rw [List.append_assoc] at onward
      cases comer : action.comer? with
      | none =>
          rw [comer] at onward
          rw [List.filterMap_cons_none comer]
          exact onward
      | some caller =>
          rw [comer] at onward
          rw [List.filterMap_cons_some comer]
          exact onward

end AfterClosing

/-! ## Only the first request counts -/

section Requests

variable [Transport σ] {site : SharedQueue σ}

/-- Requests have no effect once a shutdown has begun. -/
theorem run?_without_requests
    (closing : site.queue.closing = true)
    (actions : List (QueueAction σ)) :
    run? (actions.filter fun action => !action.isRequest) site = run? actions site := by
  induction actions generalizing site with
  | nil => rfl
  | cons action actions inductionHypothesis =>
      by_cases request : action.isRequest = true
      · rw [List.filter_cons_of_neg (by simp [request]), inductionHypothesis closing]
        rw [QueueAction.isRequest_iff.1 request, run?, step?, shut?, if_pos closing]
        rfl
      · rw [List.filter_cons_of_pos (by simpa using request), run?, run?]
        cases stepped : site.step? action with
        | none => rfl
        | some next => exact inductionHypothesis (closing_of_step? closing stepped)

/-- An interleaving goes the same way without the requests behind the first one. -/
theorem run?_withoutRepeats
    (actions : List (QueueAction σ))
    (site : SharedQueue σ) :
    run? (QueueAction.withoutRepeats actions) site = run? actions site := by
  induction actions generalizing site with
  | nil => rfl
  | cons action actions inductionHypothesis =>
      rw [QueueAction.withoutRepeats]
      split
      next request =>
        rw [run?, run?]
        cases stepped : site.step? action with
        | none => rfl
        | some next =>
            refine run?_without_requests ?_ actions
            rw [QueueAction.isRequest_iff.1 request] at stepped
            obtain ⟨closing, rfl⟩ | ⟨_, rfl⟩ := request_cases stepped
            · exact closing
            · rfl
      next =>
        rw [run?, run?]
        cases site.step? action with
        | none => rfl
        | some next => exact inductionHypothesis next

end Requests

/-! ## Whole interleavings -/

section Runs

variable [Transport σ]
  {transport : σ}
  {settings : QueueSettings}
  {guard : Option ClaimGuard}
  {registry : ClaimRegistry}
  {actions : List (QueueAction σ)}
  {site : SharedQueue σ}

theorem closeHistory_of_run?
    (steady : ∀ caller strategy, .enter caller strategy ∈ actions → strategy.labelCrashes = false)
    (ran : run? actions (start transport settings guard registry) = some site) :
    CloseHistory site := by
  have fresh : CloseHistory (start transport settings guard registry) :=
    .unclosed Custody.noConfusion (fun _ member => nomatch member)
  refine (run?_induction (fun site => Sound transport actions site ∧ CloseHistory site)
    ⟨sound_start, fresh⟩ ?_ ran).2
  rintro action member before after ⟨sound, history⟩ stepped
  obtain ⟨done, serial⟩ := sound.serial
  exact ⟨sound.step steady member stepped, history.step serial stepped⟩

/-- No shutdown loses an accepted strategy or admits one that comes later, in any interleaving
of callers, worker and shutdowns with strategies whose labels do not crash. The work on an
accepted job is a part of one whole execution with the result of a serial execution, it is whole
when the worker has no step left, and the worker alone can always get there; there is no other
work. The transport is closed at most once; then all jobs were accepted and all their work was
done before, and nothing is accepted or worked on behind it. A caller that comes after a shutdown
has begun is refused, and only the strategy that was in the entrance then can still be accepted.
Requests for a shutdown behind the first one change nothing. -/
theorem shutdown_keeps_accepted
    (steady : ∀ caller strategy, .enter caller strategy ∈ actions → strategy.labelCrashes = false)
    (ran : run? actions (start transport settings guard registry) = some site) :
    (∀ job ∈ site.jobs, site.accepted[job.ticket]? = some job.strategy ∧
      ∃ result, (Strategy.runAll site.accepted transport).1[job.ticket]? = some result ∧
        site.workOn job.ticket <+: WorkEvent.whole job.ticket result ∧
        ((∀ step, site.work? step = none) →
          site.workOn job.ticket = WorkEvent.whole job.ticket result)) ∧
    (∀ event ∈ site.workLog, ∃ job ∈ site.jobs, job.ticket = event.ticket) ∧
    (∃ (steps : List WorkerStep) (later : SharedQueue σ),
      run? (steps.map QueueAction.work) site = some later ∧
      later.accepted = site.accepted ∧
      later.workLog = Strategy.serialLog site.accepted transport) ∧
    ((site.queue.custody ≠ .closed ∧ ∀ event ∈ site.journal, event.isClose = false) ∨
      (site.queue.custody = .closed ∧
        ∃ after outcome before, site.journal = after ++ .closed outcome :: before ∧
          (∀ event ∈ after, event.IsQuiet) ∧ (∀ event ∈ before, event.isClose = false) ∧
          before.reverse.filterMap QueueEvent.job? = site.jobs ∧
          before.reverse.filterMap QueueEvent.work? =
            Strategy.serialLog site.accepted transport)) ∧
    (∀ early late mid, actions = early ++ late →
      run? early (start transport settings guard registry) = some mid →
      mid.queue.closing = true →
      (∀ strategy, mid.queue.submit strategy = (.error .queueClosed, mid.queue)) ∧
      site.refusals = mid.refusals ++ late.filterMap QueueAction.comer? ∧
      (site.jobs = mid.jobs ∨
        ∃ caller strategy, mid.entering = some (caller, strategy) ∧
          site.jobs = mid.jobs ++ [⟨mid.jobs.length, strategy⟩])) ∧
    run? (QueueAction.withoutRepeats actions) (start transport settings guard registry) =
      some site := by
  have sound := sound_of_run? steady ran
  have labelled := sound.labelled steady
  obtain ⟨done, serial⟩ := sound.serial
  refine ⟨?_, fun _ member => serial.job_of_workLog member, ?_, ?_, ?_, ?_⟩
  · intro job member
    obtain ⟨result, serially, part, whole⟩ := serial.workOn_prefix member
    refine ⟨?_, result, serially, part, ?_⟩
    · rw [accepted, List.getElem?_map, serial.getElem?_jobs member]
      rfl
    · exact fun stopped => whole (serial.workLog_of_stopped labelled stopped)
  · refine serial.finishes fun strategy member => ?_
    obtain ⟨job, jobMember, rfl⟩ := List.mem_map.1 member
    exact labelled job jobMember
  · cases closeHistory_of_run? steady ran with
    | unclosed custody noClose => exact .inl ⟨custody, noClose⟩
    | closed custody journal quiet noClose =>
        obtain ⟨work, jobs⟩ := serial.workLog_before_close custody journal quiet
        exact .inr ⟨custody, _, _, _, journal, quiet, noClose, jobs, work⟩
  · rintro early late mid rfl before closing
    have steadyEarly : ∀ caller strategy, .enter caller strategy ∈ early →
        strategy.labelCrashes = false :=
      fun caller strategy member => steady caller strategy (List.mem_append_left _ member)
    rw [run?_append, before] at ran
    have midSound : Sound transport (early ++ late) mid := by
      refine run?_induction (Sound transport (early ++ late)) sound_start ?_ before
      intro action member site later sound stepped
      exact sound.step steady (List.mem_append_left _ member) stepped
    have begun : AfterClosing mid [] mid :=
      ⟨closing, (List.append_nil _).symm, .inl ⟨rfl, rfl⟩⟩
    have since := begun.run midSound steady (fun _ => List.mem_append_right _) ran
    refine ⟨fun strategy => ?_, since.refusals, ?_⟩
    · rw [CommandQueue.submit, CommandQueue.admits, closing]
      simp
    · obtain ⟨_, same⟩ | ⟨_, admitted⟩ := since.admission
      · exact .inl same
      · exact .inr admitted
  · rw [run?_withoutRepeats]
    exact ran

end Runs

/-- A caller is in the entrance when the shutdown begins, and another one comes after it; the
first one is accepted and executed before the close, and the second one is refused. -/
theorem shutdown_keeps_accepted_race :
    let port : SerialPort := { name := "port", line := .quiet [] .silent }
    let writing := Strategy.rehearsed "Writing" (some [0x4C]) (.ok .success)
    let crashing := Strategy.rehearsed "Crashing" (some [0x52]) (.error .crash)
    let early : List (QueueAction SerialPort) := [.enter 0 writing, .shut .request]
    let late : List (QueueAction SerialPort) :=
      [.handOver, .shut .hangUp, .enter 1 crashing, .shut .request, .work .take,
        .work .perform, .work .deliver, .work .retire, .shut .receive, .shut .release,
        .shut .close]
    ∃ site, run? (early ++ late) (start port {}) = some site ∧
      (∀ caller strategy, .enter caller strategy ∈ early ++ late →
        strategy.labelCrashes = false) ∧
      site.jobs = [⟨0, writing⟩] ∧ site.refusals = [1] ∧
      site.workOn 0 = WorkEvent.whole 0 (.ok .success) ∧
      ∃ after outcome before, site.journal = after ++ .closed outcome :: before ∧
        before.reverse.filterMap QueueEvent.work? = WorkEvent.whole 0 (.ok .success) := by
  intro port writing crashing early late
  have steady : ∀ caller strategy, .enter caller strategy ∈ early ++ late →
      strategy.labelCrashes = false := by
    intro caller strategy member
    simp only [early, late, List.cons_append, List.nil_append, List.mem_cons,
      QueueAction.enter.injEq, reduceCtorEq, false_or, List.not_mem_nil, or_false] at member
    rcases member with ⟨-, rfl⟩ | ⟨-, rfl⟩
    · rfl
    · rfl
  obtain ⟨mid, before, closing, noneRefused⟩ :
      ∃ mid, run? early (start port {}) = some mid ∧ mid.queue.closing = true ∧
        mid.refusals = [] := ⟨_, rfl, rfl, rfl⟩
  obtain ⟨site, ran, jobs, work, custody⟩ :
      ∃ site, run? (early ++ late) (start port {}) = some site ∧ site.jobs = [⟨0, writing⟩] ∧
        site.workOn 0 = WorkEvent.whole 0 (.ok .success) ∧ site.queue.custody = .closed :=
    ⟨_, rfl, rfl, rfl, rfl⟩
  obtain ⟨-, -, -, close, admission, -⟩ := shutdown_keeps_accepted steady ran
  obtain ⟨-, refusals, -⟩ := admission early late mid rfl before closing
  refine ⟨site, ran, steady, jobs, ?_, work, ?_⟩
  · rw [refusals, noneRefused]
    rfl
  · obtain ⟨unclosed, -⟩ | ⟨-, after, outcome, beforeClose, journal, -, -, -, finished⟩ := close
    · exact absurd custody unclosed
    · refine ⟨after, outcome, beforeClose, journal, ?_⟩
      rw [finished, accepted, jobs]
      rfl

end SharedQueue

end DeviceLink
