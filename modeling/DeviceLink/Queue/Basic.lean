import DeviceLink.Claims.Registry
import DeviceLink.Queue.Strategy

/-!
# Command queues

A queue owns a transport and executes strategies on it, one at a time and in
the order in which they were accepted. Callers hold a ticket for each accepted
strategy and ask for its result. The steps of the callers, of the worker and
of a shutdown are functions on the state of the queue, so that any
interleaving of them is a sequence of applications.
-/

namespace DeviceLink

/-- How long callers wait for results, for the queued work, and for the close. -/
structure QueueSettings where
  /-- How long a caller waits for its result. -/
  taskTimeout : Duration := .ofSeconds 5
  /-- How long a shutdown waits for the work that was accepted. -/
  drainTimeout : Duration := .ofSeconds 10
  /-- How long a shutdown waits for the transport to close. -/
  closeTimeout : Duration := .ofSeconds 5
  deriving DecidableEq, Inhabited

/-- The number of an accepted strategy. -/
abbrev Ticket : Type := Nat

/-- An accepted strategy. -/
structure Job (σ : Type) where
  /-- The number of the job in the order of acceptance. -/
  ticket : Ticket
  /-- What is to be executed. -/
  strategy : Strategy σ

/-- What the worker is doing. -/
inductive Activity (σ : Type)
  | idle
  | begun (job : Job σ)
  | settling (job : Job σ) (result : StrategyResult) (left : Nat)

/-- Who has the transport: the worker, the queue after the worker ended, or nobody. -/
inductive Custody
  | worker
  | returned
  | closed
  | lost
  deriving DecidableEq, Inhabited

/-- What a caller sees of its result. -/
inductive Reply
  | result (value : StrategyResult)
  | pending
  | gone

/-- What a wait ends with that stops, at the latest after `timeout`, while the caller sees this. -/
def Reply.answer (timeout : Duration) : Reply → StrategyResult
  | .result value => value
  | .pending => .error (.queueTimeout timeout)
  | .gone => .error .queueClosed

/-- The state of a command queue. -/
structure CommandQueue (σ : Type) where
  /-- The name of the transport. -/
  name : String
  /-- How long everybody waits. -/
  settings : QueueSettings
  /-- The transport, in the state in which the last strategy has left it. -/
  transport : σ
  /-- In whose hands the transport is. -/
  custody : Custody := .worker
  /-- What the worker is doing. -/
  activity : Activity σ := .idle
  /-- The accepted jobs that the worker has not taken yet, oldest first. -/
  waiting : List (Job σ) := []
  /-- Strategies that are handed in are let through to the worker. -/
  accepting : Bool := true
  /-- A shutdown has begun. -/
  closing : Bool := false
  /-- A shutdown has given up waiting for the worker. -/
  abandoned : Bool := false
  /-- The ticket of the next job. -/
  nextTicket : Ticket := 0
  /-- The tickets of the jobs that the worker has taken, newest first. -/
  begun : List Ticket := []
  /-- The results that were posted, with their tickets, newest first. -/
  results : List (Ticket × StrategyResult) := []
  /-- The right to the path of the transport, until it is given back. -/
  guard : Option ClaimGuard := none

namespace CommandQueue

variable {σ : Type}

/-- A queue over an idle transport. -/
def start [Transport σ]
    (transport : σ)
    (settings : QueueSettings)
    (guard : Option ClaimGuard := none) : CommandQueue σ where
  name := Transport.name transport
  settings := settings
  transport := transport
  guard := guard

/-- No shutdown has begun. -/
def isOpen (queue : CommandQueue σ) : Bool :=
  !queue.closing

/-- A strategy handed in now is let through to the worker. -/
def admits (queue : CommandQueue σ) : Bool :=
  queue.accepting && !queue.closing

/-- Pass a strategy on to the worker, for a ticket if the worker has not ended. -/
def enqueue
    (strategy : Strategy σ)
    (queue : CommandQueue σ) : Except LinkError Ticket × CommandQueue σ :=
  match queue.custody with
  | .worker =>
      (.ok queue.nextTicket,
        { queue with
          waiting := queue.waiting ++ [⟨queue.nextTicket, strategy⟩]
          nextTicket := queue.nextTicket + 1 })
  | _ => (.error .queueClosed, queue)

/-- Hand in a strategy for a ticket. -/
def submit
    (strategy : Strategy σ)
    (queue : CommandQueue σ) : Except LinkError Ticket × CommandQueue σ :=
  if queue.admits then queue.enqueue strategy else (.error .queueClosed, queue)

/-- The ticket of the job the worker is at. -/
def current? (queue : CommandQueue σ) : Option Ticket :=
  match queue.activity with
  | .idle => none
  | .begun job => some job.ticket
  | .settling job _ _ => some job.ticket

/-- The job of a ticket is waiting or being executed. -/
def holds (queue : CommandQueue σ) (ticket : Ticket) : Bool :=
  queue.current? == some ticket || queue.waiting.any fun job => job.ticket == ticket

/-- What the holder of a ticket sees. -/
def reply (queue : CommandQueue σ) (ticket : Ticket) : Reply :=
  match queue.results.lookup ticket with
  | some value => .result value
  | none => if queue.holds ticket then .pending else .gone

/-! ### Steps of the worker -/

/-- Take the next job. A job that cannot be labelled ends the worker, and all jobs with it. -/
def begin? (queue : CommandQueue σ) : Option (CommandQueue σ) :=
  match queue.custody, queue.activity, queue.waiting with
  | .worker, .idle, job :: others =>
      if job.strategy.labelCrashes then
        some { queue with custody := .lost, waiting := [] }
      else
        some { queue with
          activity := .begun job
          waiting := others
          begun := job.ticket :: queue.begun }
  | _, _, _ => none

/-- Execute the job that was taken. -/
def perform? (queue : CommandQueue σ) : Option (CommandQueue σ) :=
  match queue.activity with
  | .begun job =>
      let (result, transport) := job.strategy.run queue.transport
      some { queue with
        transport := transport
        activity := .settling job result (job.strategy.pauseAfter result).nanos }
  | _ => none

/-- Post the result of the job that was executed. -/
def deliver? (queue : CommandQueue σ) : Option (CommandQueue σ) :=
  match queue.activity with
  | .settling job result _ =>
      some { queue with
        activity := .idle
        results := (job.ticket, result) :: queue.results }
  | _ => none

/-- End the worker once nothing waits and nothing can come. A shutdown that gave up loses the
transport. -/
def retire? (queue : CommandQueue σ) : Option (CommandQueue σ) :=
  match queue.custody, queue.activity, queue.waiting with
  | .worker, .idle, [] =>
      if queue.accepting then none
      else some { queue with custody := if queue.abandoned then .lost else .returned }
  | _, _, _ => none

/-! ### Steps of a shutdown -/

/-- Begin the shutdown. -/
def startClosing (queue : CommandQueue σ) : CommandQueue σ :=
  { queue with closing := true }

/-- Let no more strategies through to the worker. -/
def hangUp (queue : CommandQueue σ) : CommandQueue σ :=
  { queue with accepting := false }

/-- Stop waiting for the worker. -/
def abandon (queue : CommandQueue σ) : CommandQueue σ :=
  { queue with abandoned := true }

/-- Give the claim back. -/
def releaseGuard
    (queue : CommandQueue σ)
    (registry : ClaimRegistry) : CommandQueue σ × ClaimRegistry :=
  match queue.guard with
  | none => (queue, registry)
  | some guard => ({ queue with guard := none }, registry.release guard.path)

/-- Close the transport that the worker has returned. -/
def closeTransport [Transport σ]
    (queue : CommandQueue σ) : Except LinkError Unit × CommandQueue σ :=
  match queue.custody with
  | .returned =>
      let (closing, transport) := Transport.close queue.transport
      let queue := { queue with transport := transport, custody := .closed }
      match closing with
      | .finished outcome => (outcome, queue)
      | .crashed => (.ok (), queue)
      | .stuck => (.ok (), queue)
  | _ => (.ok (), queue)

end CommandQueue

end DeviceLink
