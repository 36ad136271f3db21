import DeviceLink.Queue.Basic

/-!
# Sessions with a queue

A session runs a queue for a single caller on a virtual clock. Between two
calls the worker goes on until a gate or a settling device holds it; a call
that waits lets time pass, up to its timeout.
-/

namespace DeviceLink

/-- A queue, the gates that were opened, and the registry its claim is in. -/
structure QueueSession (σ : Type) where
  /-- The queue itself. -/
  queue : CommandQueue σ
  /-- The gates that hold no strategy back any more. -/
  openGates : List String := []
  /-- The registry that the claim of the queue is in. -/
  registry : ClaimRegistry := .empty

namespace CommandQueue

variable {σ : Type}

/-- The gate of a job is open, or it has none. -/
def passes (openGates : List String) (job : Job σ) : Bool :=
  match job.strategy.gate with
  | none => true
  | some gate => openGates.contains gate

/-- One step of the worker that takes no time. -/
def tick? (openGates : List String) (queue : CommandQueue σ) : Option (CommandQueue σ) :=
  match queue.activity with
  | .idle => queue.begin? <|> queue.retire?
  | .begun job => if passes openGates job then queue.perform? else none
  | .settling _ _ left => if left = 0 then queue.deliver? else none

/-- Up to `steps` steps of the worker. -/
def runTicks (openGates : List String) : Nat → CommandQueue σ → CommandQueue σ
  | 0, queue => queue
  | steps + 1, queue =>
      match queue.tick? openGates with
      | some later => runTicks openGates steps later
      | none => queue

/-- Run the worker until it is held. Each job takes three steps, and ending takes one. -/
def runHeld (openGates : List String) (queue : CommandQueue σ) : CommandQueue σ :=
  queue.runTicks openGates (3 * queue.waiting.length + 4)

/-- The time until a settling device is free, in nanoseconds. -/
def settlingTime? (queue : CommandQueue σ) : Option Nat :=
  match queue.activity with
  | .settling _ _ left => some left
  | _ => none

/-- The queue after some of the settling time. -/
def elapse (nanos : Nat) (queue : CommandQueue σ) : CommandQueue σ :=
  match queue.activity with
  | .settling job result left =>
      { queue with activity := .settling job result (left - nanos) }
  | _ => queue

/-- Let at most `budget` nanoseconds pass until the queue is as wanted; false when it is not by
then. -/
def awaitWithin
    (openGates : List String)
    (wanted : CommandQueue σ → Bool) :
    Nat → Nat → CommandQueue σ → Bool × CommandQueue σ
  | 0, _, queue => (wanted queue, queue)
  | rounds + 1, budget, queue =>
      let held := queue.runHeld openGates
      if wanted held then (true, held)
      else
        match held.settlingTime? with
        | none => (false, held)
        | some left =>
            if left ≤ budget then
              awaitWithin openGates wanted rounds (budget - left) (held.elapse left)
            else (false, held.elapse budget)

end CommandQueue

namespace QueueSession

variable {σ : Type}

/-- Change the queue and let the worker go on. -/
def advance (session : QueueSession σ) (queue : CommandQueue σ) : QueueSession σ :=
  { session with queue := queue.runHeld session.openGates }

/-- Let time pass until the queue is as wanted. -/
def await
    (wanted : CommandQueue σ → Bool)
    (timeout : Duration)
    (session : QueueSession σ) : Bool × QueueSession σ :=
  let (reached, queue) := session.queue.awaitWithin session.openGates wanted
    (session.queue.waiting.length + 3) timeout.nanos
  (reached, { session with queue := queue })

/-- Open a gate for good. -/
def openGate (gate : String) (session : QueueSession σ) : QueueSession σ :=
  let session := { session with openGates := gate :: session.openGates }
  session.advance session.queue

/-- Hand in a strategy. -/
def submit
    (strategy : Strategy σ)
    (session : QueueSession σ) : Except LinkError Ticket × QueueSession σ :=
  let (ticket, queue) := session.queue.submit strategy
  (ticket, session.advance queue)

/-- The result of a ticket is no longer pending. -/
def settled (ticket : Ticket) (queue : CommandQueue σ) : Bool :=
  match queue.reply ticket with
  | .pending => false
  | _ => true

/-- Wait for the result of a ticket. -/
def wait
    (ticket : Ticket)
    (timeout : Duration)
    (session : QueueSession σ) : StrategyResult × QueueSession σ :=
  let (_, session) := session.await (settled ticket) timeout
  ((session.queue.reply ticket).answer timeout, session)

/-- Hand in a strategy and wait for its result. -/
def executeWithin
    (strategy : Strategy σ)
    (timeout : Duration)
    (session : QueueSession σ) : StrategyResult × QueueSession σ :=
  match session.submit strategy with
  | (.ok ticket, session) => session.wait ticket timeout
  | (.error cause, session) => (.error cause, session)

/-- Hand in a strategy and wait for its result as long as the settings say. -/
def execute
    (strategy : Strategy σ)
    (session : QueueSession σ) : StrategyResult × QueueSession σ :=
  session.executeWithin strategy session.queue.settings.taskTimeout

/-- Whether a strategy ended with a success. -/
def status
    (strategy : Strategy σ)
    (session : QueueSession σ) : Bool × QueueSession σ :=
  match session.execute strategy with
  | (.ok response, session) => (response.isSuccess, session)
  | (.error _, session) => (false, session)

/-- The worker no longer has the transport. -/
def workerEnded (queue : CommandQueue σ) : Bool :=
  queue.custody != .worker

/-- Shut the queue down: let the queued work end, give the claim back, close the transport. -/
def shutdown [Transport σ]
    (session : QueueSession σ) : Except LinkError Unit × QueueSession σ :=
  if session.queue.closing then (.ok (), session)
  else
    let session := session.advance session.queue.startClosing.hangUp
    let (ended, session) := session.await workerEnded session.queue.settings.drainTimeout
    let queue := if ended then session.queue else session.queue.abandon
    let (queue, registry) := queue.releaseGuard session.registry
    let (outcome, queue) := queue.closeTransport
    (outcome, { session with queue := queue, registry := registry })

end QueueSession

end DeviceLink
