import DeviceLink.Queue.Session

/-!
# Interleavings of the users of a queue

Any number of callers, the worker and any number of shutdowns use one queue at
the same time. Each of them goes on in steps that nothing interrupts, and an
interleaving is a list of such steps in any order that their guards allow.

A caller that hands in a strategy holds the entrance of the queue from the
check that the queue is open to the handing over; a shutdown needs the
entrance to hang up. A wait shows as the one step that ends it. The journal
keeps what happened, newest first.
-/

namespace DeviceLink

/-- The number of a caller. -/
abbrev Caller : Type := Nat

/-- What the worker does for one accepted strategy. -/
inductive WorkEvent
  | began (ticket : Ticket)
  | ended (ticket : Ticket) (result : StrategyResult)
  | posted (ticket : Ticket)

/-- What happens to a shared queue. -/
inductive QueueEvent (σ : Type)
  | accepted (caller : Caller) (job : Job σ)
  | refused (caller : Caller)
  | answered (caller : Caller) (ticket : Ticket) (timeout : Duration) (answer : StrategyResult)
  | worked (event : WorkEvent)
  | died
  | retired
  | closed (outcome : Except LinkError Unit)

namespace QueueEvent

variable {σ : Type}

/-- The job that an event accepts. -/
def job? : QueueEvent σ → Option (Job σ)
  | accepted _ job => some job
  | _ => none

/-- The work that an event shows. -/
def work? : QueueEvent σ → Option WorkEvent
  | worked event => some event
  | _ => none

end QueueEvent

/-- The steps of the worker. -/
inductive WorkerStep
  | take
  | perform
  | deliver
  | retire
  deriving DecidableEq

/-- The steps of shutdowns. Only the first shutdown goes beyond its request. -/
inductive ShutdownStep
  | request
  | hangUp
  | receive
  | giveUp
  | release
  | close
  deriving DecidableEq

/-- How far the first shutdown has come. -/
inductive ShutdownStage
  | unstarted
  | requested
  | hungUp
  | drained
  | released
  | ended
  deriving DecidableEq

/-- One step of an interleaving. -/
inductive QueueAction (σ : Type)
  | enter (caller : Caller) (strategy : Strategy σ)
  | handOver
  | finishWait (caller : Caller) (ticket : Ticket) (timeout : Duration)
  | forget (caller : Caller) (ticket : Ticket)
  | work (step : WorkerStep)
  | shut (step : ShutdownStep)

/-- A queue with those who use it: the caller in the entrance, the tickets whose results callers
still hold, and the shutdown. -/
structure SharedQueue (σ : Type) where
  /-- The queue itself. -/
  queue : CommandQueue σ
  /-- The registry that the claim of the queue is in. -/
  registry : ClaimRegistry := .empty
  /-- The caller that was let in and has not passed its strategy on, with the strategy. -/
  entering : Option (Caller × Strategy σ) := none
  /-- The tickets that callers hold, with their callers. -/
  held : List (Caller × Ticket) := []
  /-- Where the first shutdown is. -/
  stage : ShutdownStage := .unstarted
  /-- The events so far, newest first. -/
  journal : List (QueueEvent σ) := []

namespace SharedQueue

variable {σ : Type}

/-- A fresh queue that nobody uses yet. -/
def start [Transport σ]
    (transport : σ)
    (settings : QueueSettings)
    (guard : Option ClaimGuard := none)
    (registry : ClaimRegistry := .empty) : SharedQueue σ where
  queue := .start transport settings guard
  registry := registry

/-- A session as the start of an interleaving. -/
def ofSession (session : QueueSession σ) : SharedQueue σ where
  queue := session.queue
  registry := session.registry

/-- Keep an event in the journal. -/
def note (event : QueueEvent σ) (site : SharedQueue σ) : SharedQueue σ :=
  { site with journal := event :: site.journal }

/-! ### Views of the journal -/

/-- The accepted jobs in the order in which they were accepted. -/
def jobs (site : SharedQueue σ) : List (Job σ) :=
  site.journal.reverse.filterMap QueueEvent.job?

/-- The accepted strategies in the order in which they were accepted. -/
def accepted (site : SharedQueue σ) : List (Strategy σ) :=
  site.jobs.map Job.strategy

/-- What the worker did, oldest first. -/
def workLog (site : SharedQueue σ) : List WorkEvent :=
  site.journal.reverse.filterMap QueueEvent.work?

@[simp] theorem jobs_note (event : QueueEvent σ) (site : SharedQueue σ) :
    (site.note event).jobs = site.jobs ++ event.job?.toList := by
  cases event <;> simp [jobs, note, QueueEvent.job?]

@[simp] theorem workLog_note (event : QueueEvent σ) (site : SharedQueue σ) :
    (site.note event).workLog = site.workLog ++ event.work?.toList := by
  cases event <;> simp [workLog, note, QueueEvent.work?]

@[simp] theorem journal_note (event : QueueEvent σ) (site : SharedQueue σ) :
    (site.note event).journal = event :: site.journal := rfl

/-! ### Steps of callers -/

/-- Take the entrance with a strategy if the queue lets strategies through. -/
def enter?
    (caller : Caller)
    (strategy : Strategy σ)
    (site : SharedQueue σ) : Option (SharedQueue σ) :=
  match site.entering with
  | some _ => none
  | none =>
      if site.queue.admits then some { site with entering := some (caller, strategy) }
      else some (site.note (.refused caller))

/-- Pass the strategy in the entrance on to the worker, and leave the entrance. -/
def handOver? (site : SharedQueue σ) : Option (SharedQueue σ) :=
  match site.entering with
  | none => none
  | some (caller, strategy) =>
      match site.queue.enqueue strategy with
      | (.ok ticket, queue) =>
          let held := (caller, ticket) :: site.held
          some ({ site with queue := queue, entering := none, held := held }.note
            (.accepted caller ⟨ticket, strategy⟩))
      | (.error _, queue) =>
          some ({ site with queue := queue, entering := none }.note (.refused caller))

/-- End a wait for a ticket; the caller no longer holds the ticket. -/
def finishWait?
    (caller : Caller)
    (ticket : Ticket)
    (timeout : Duration)
    (site : SharedQueue σ) : Option (SharedQueue σ) :=
  if (caller, ticket) ∈ site.held then
    let answer := (site.queue.reply ticket).answer timeout
    some ({ site with held := site.held.erase (caller, ticket) }.note
      (.answered caller ticket timeout answer))
  else none

/-- Drop a ticket without a wait. -/
def forget? (caller : Caller) (ticket : Ticket) (site : SharedQueue σ) : Option (SharedQueue σ) :=
  if (caller, ticket) ∈ site.held then
    some { site with held := site.held.erase (caller, ticket) }
  else none

/-! ### Steps of the worker -/

/-- What shows of a worker that took a job: it began, or the job's label ended the worker. -/
def takenEvent (later : CommandQueue σ) : QueueEvent σ :=
  match later.current? with
  | some ticket => .worked (.began ticket)
  | none => .died

/-- What shows of the work whose result is to be posted. -/
def performedEvent (later : CommandQueue σ) : QueueEvent σ :=
  match later.activity with
  | .settling job result _ => .worked (.ended job.ticket result)
  | _ => .died

/-- What shows when the result of the work at hand is posted. -/
def deliveredEvent (before : CommandQueue σ) : QueueEvent σ :=
  match before.current? with
  | some ticket => .worked (.posted ticket)
  | none => .died

/-- A step of the worker. -/
def work? (site : SharedQueue σ) : WorkerStep → Option (SharedQueue σ)
  | .take => site.queue.begin?.map fun later =>
      { site with queue := later }.note (takenEvent later)
  | .perform => site.queue.perform?.map fun later =>
      { site with queue := later }.note (performedEvent later)
  | .deliver => site.queue.deliver?.map fun later =>
      { site with queue := later }.note (deliveredEvent site.queue)
  | .retire => site.queue.retire?.map fun later =>
      { site with queue := later }.note .retired

/-! ### Steps of shutdowns -/

/-- A step of a shutdown. A request after the first one has no effect. -/
def shut? [Transport σ] (site : SharedQueue σ) : ShutdownStep → Option (SharedQueue σ)
  | .request =>
      if site.queue.closing then some site
      else some { site with queue := site.queue.startClosing, stage := .requested }
  | .hangUp =>
      if site.stage = .requested ∧ site.entering.isNone then
        some { site with queue := site.queue.hangUp, stage := .hungUp }
      else none
  | .receive =>
      if site.stage = .hungUp ∧ site.queue.custody ≠ .worker then
        some { site with stage := .drained }
      else none
  | .giveUp =>
      if site.stage = .hungUp ∧ site.queue.custody = .worker then
        some { site with queue := site.queue.abandon, stage := .drained }
      else none
  | .release =>
      if site.stage = .drained then
        let (queue, registry) := site.queue.releaseGuard site.registry
        some { site with queue := queue, registry := registry, stage := .released }
      else none
  | .close =>
      if site.stage = .released then
        let (outcome, queue) := site.queue.closeTransport
        let later := { site with queue := queue, stage := .ended }
        some (if site.queue.custody = .returned then later.note (.closed outcome) else later)
      else none

/-! ### Runs -/

/-- One step of an interleaving, absent where its guard does not allow it. -/
def step? [Transport σ] (site : SharedQueue σ) : QueueAction σ → Option (SharedQueue σ)
  | .enter caller strategy => site.enter? caller strategy
  | .handOver => site.handOver?
  | .finishWait caller ticket timeout => site.finishWait? caller ticket timeout
  | .forget caller ticket => site.forget? caller ticket
  | .work step => site.work? step
  | .shut step => site.shut? step

/-- An interleaving, absent where a guard does not allow one of its steps. -/
def run? [Transport σ] : List (QueueAction σ) → SharedQueue σ → Option (SharedQueue σ)
  | [], site => some site
  | action :: actions, site => (site.step? action).bind (run? actions)

theorem run?_append [Transport σ]
    (early late : List (QueueAction σ))
    (site : SharedQueue σ) :
    run? (early ++ late) site = (run? early site).bind (run? late) := by
  induction early generalizing site with
  | nil => rfl
  | cons action early inductionHypothesis =>
      rw [List.cons_append, run?, run?, Option.bind_assoc]
      exact congrArg (site.step? action).bind (funext inductionHypothesis)

/-- A property that holds at the start and that every step keeps holds after every interleaving.
The steps are those of a list of actions, so a property of the actions may be assumed. -/
theorem run?_induction [Transport σ]
    (holds : SharedQueue σ → Prop)
    {actions : List (QueueAction σ)}
    {site later : SharedQueue σ}
    (initial : holds site)
    (kept : ∀ action ∈ actions, ∀ before after : SharedQueue σ,
      holds before → before.step? action = some after → holds after)
    (ran : run? actions site = some later) :
    holds later := by
  induction actions generalizing site with
  | nil =>
      simp only [run?, Option.some.injEq] at ran
      exact ran ▸ initial
  | cons action actions inductionHypothesis =>
      obtain ⟨next, stepped, rest⟩ := Option.bind_eq_some_iff.1 ran
      refine inductionHypothesis ?_ ?_ rest
      · exact kept action (by simp) site next initial stepped
      · intro other member
        exact kept other (by simp [member])

end SharedQueue

end DeviceLink
