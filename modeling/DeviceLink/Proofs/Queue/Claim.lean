import DeviceLink.Proofs.Claims.Acquire
import DeviceLink.Proofs.Queue.Steps
import DeviceLink.Queue.Connect

/-!
# The claim of a shared queue

The path of a queue's guard stays claimed until the first shutdown gives the
claim back, which it does before it closes the transport. From then on the
path can be claimed again. At that time the worker has ended, unless the
shutdown gave up waiting for it; then the worker still has the transport and
goes on with the strategies that were accepted.
-/

namespace DeviceLink

/-- A report connection starts with its path claimed for the guard in its queue. -/
theorem QueueSession.claimed_of_connectReports
    {bus later : ReportBus}
    {spec : ReportDeviceSpec}
    {registry claimed : ClaimRegistry}
    {settings : QueueSettings}
    {session : QueueSession ReportConnection}
    (connected :
      connectReports bus spec registry settings = (.ok session, claimed, later)) :
    ∃ connection guard, session.queue = .start connection settings (some guard) ∧
      session.registry.isClaimed guard.path = true := by
  unfold connectReports at connected
  split at connected
  next => cases connected
  next acquired registry bus opened =>
    split at connected
    next => cases connected
    next connection _ =>
      cases connected
      exact ⟨connection, acquired.guard, rfl, ClaimRegistry.claimed_of_acquireFrom opened⟩

namespace SharedQueue

variable {σ : Type} {site later : SharedQueue σ} {guard : ClaimGuard}

/-- Where the transport can be when a drain is over: with the worker only if the shutdown gave
up waiting for it. -/
def Drained (queue : CommandQueue σ) : Prop :=
  queue.custody = .worker → queue.abandoned = true

/-- No shutdown came anywhere before one was asked for. -/
def StartsClosing (site : SharedQueue σ) : Prop :=
  site.queue.closing = false → site.stage = .unstarted

/-- How the claim on the path of a guard and the transport go together, by the stage of the
first shutdown. -/
inductive ClaimState (guard : ClaimGuard) (site : SharedQueue σ) : Prop
  | held
      (before : site.stage ≠ .released ∧ site.stage ≠ .ended)
      (guarded : site.queue.guard = some guard)
      (claimed : site.registry.isClaimed guard.path = true)
      (unclosed : site.queue.custody ≠ .closed)
      (drained : site.stage = .drained → Drained site.queue)
  | released
      (stage : site.stage = .released)
      (free : site.registry.isClaimed guard.path = false)
      (drained : Drained site.queue)
  | ended
      (stage : site.stage = .ended)
      (free : site.registry.isClaimed guard.path = false)
      (drained : Drained site.queue)
      (gone : site.queue.custody ≠ .returned)

/-- A step that leaves the claim and the shutdown alone; at most the worker ends in it, and the
transport returns only to a shutdown that still waits. -/
structure LeavesClaim (site later : SharedQueue σ) : Prop where
  /-- The shutdown is where it was. -/
  stage : later.stage = site.stage
  /-- A shutdown has begun if one had. -/
  closing : later.queue.closing = site.queue.closing
  /-- The registry is as before. -/
  registry : later.registry = site.registry
  /-- The guard is as before. -/
  guard : later.queue.guard = site.queue.guard
  /-- No shutdown gives up on the worker in the step. -/
  abandoned : later.queue.abandoned = site.queue.abandoned
  /-- The transport stays where it is, or the worker lets go of it. -/
  custody : later.queue.custody = site.queue.custody ∨
    site.queue.custody = .worker ∧
      (later.queue.custody = .lost ∨
        later.queue.custody = .returned ∧ site.queue.abandoned = false)

theorem leavesClaim_work
    {step : WorkerStep}
    (worked : site.work? step = some later) :
    LeavesClaim site later := by
  cases step with
  | take =>
      obtain ⟨queue, begun, rfl⟩ := Option.map_eq_some_iff.1 worked
      obtain ⟨custody, _, job, others, _, ⟨_, rfl⟩ | ⟨_, rfl⟩⟩ := CommandQueue.begin?_cases begun
      · exact ⟨rfl, rfl, rfl, rfl, rfl, .inr ⟨custody, .inl rfl⟩⟩
      · exact ⟨rfl, rfl, rfl, rfl, rfl, .inl rfl⟩
  | perform =>
      obtain ⟨queue, executed, rfl⟩ := Option.map_eq_some_iff.1 worked
      obtain ⟨job, _, rfl⟩ := CommandQueue.perform?_cases executed
      exact ⟨rfl, rfl, rfl, rfl, rfl, .inl rfl⟩
  | deliver =>
      obtain ⟨queue, posted, rfl⟩ := Option.map_eq_some_iff.1 worked
      obtain ⟨job, result, left, _, rfl⟩ := CommandQueue.deliver?_cases posted
      exact ⟨rfl, rfl, rfl, rfl, rfl, .inl rfl⟩
  | retire =>
      obtain ⟨queue, left, rfl⟩ := Option.map_eq_some_iff.1 worked
      obtain ⟨custody, _, _, _, rfl⟩ := CommandQueue.retire?_cases left
      refine ⟨rfl, rfl, rfl, rfl, rfl, .inr ⟨custody, ?_⟩⟩
      cases site.queue.abandoned with
      | true => exact .inl rfl
      | false => exact .inr ⟨rfl, rfl⟩

namespace ClaimState

theorem of_leavesClaim
    (state : ClaimState guard site)
    (leaves : LeavesClaim site later) :
    ClaimState guard later := by
  have stillDrained : Drained site.queue → Drained later.queue := by
    intro drained worker
    rw [leaves.abandoned]
    obtain same | ⟨custody, _⟩ := leaves.custody
    · exact drained (same ▸ worker)
    · exact drained custody
  cases state with
  | held before guarded claimed unclosed drained =>
      refine .held (leaves.stage ▸ before) (leaves.guard ▸ guarded) (leaves.registry ▸ claimed) ?_
        (fun stage => stillDrained (drained (leaves.stage ▸ stage)))
      obtain same | ⟨_, lost | ⟨returned, _⟩⟩ := leaves.custody
      · rw [same]
        exact unclosed
      · rw [lost]
        exact Custody.noConfusion
      · rw [returned]
        exact Custody.noConfusion
  | released stage free drained =>
      exact .released (leaves.stage.trans stage) (leaves.registry ▸ free) (stillDrained drained)
  | ended stage free drained gone =>
      refine .ended (leaves.stage.trans stage) (leaves.registry ▸ free) (stillDrained drained) ?_
      obtain same | ⟨custody, lost | ⟨_, waited⟩⟩ := leaves.custody
      · rw [same]
        exact gone
      · rw [lost]
        exact Custody.noConfusion
      · rw [drained custody] at waited
        cases waited

/-- Before the release a shutdown only moves on. -/
theorem of_advance
    {stage : ShutdownStage}
    {queue : CommandQueue σ}
    (state : ClaimState guard site)
    (before : site.stage ≠ .released ∧ site.stage ≠ .ended)
    (still : stage ≠ .released ∧ stage ≠ .ended)
    (sameGuard : queue.guard = site.queue.guard)
    (sameCustody : queue.custody = site.queue.custody)
    (drained : stage = .drained → Drained queue) :
    ClaimState guard { site with queue := queue, stage := stage } := by
  cases state with
  | held _ guarded claimed unclosed _ =>
      exact .held still (sameGuard.trans guarded) claimed (sameCustody ▸ unclosed) drained
  | released stage _ _ => exact absurd stage before.1
  | ended stage _ _ _ => exact absurd stage before.2

/-- The release gives the path of the guard back. -/
theorem release
    (state : ClaimState guard site)
    (stage : site.stage = .drained) :
    ClaimState guard { site with
      queue := { site.queue with guard := none }
      registry := (site.queue.releaseGuard site.registry).2
      stage := .released } := by
  cases state with
  | held _ guarded _ _ drained =>
      have released : (site.queue.releaseGuard site.registry).2 =
          site.registry.release guard.path := by
        rw [CommandQueue.releaseGuard, guarded]
      refine .released rfl ?_ (drained stage)
      rw [released]
      exact ClaimRegistry.isClaimed_release _ _
  | released other _ _ =>
      rw [stage] at other
      cases other
  | ended other _ _ _ =>
      rw [stage] at other
      cases other

/-- The close comes behind the release, and it leaves no transport that could still be closed. -/
theorem close
    {queue : CommandQueue σ}
    (state : ClaimState guard site)
    (stage : site.stage = .released)
    (gone : queue.custody ≠ .returned)
    (drained : Drained site.queue → Drained queue) :
    ClaimState guard { site with queue := queue, stage := .ended } := by
  cases state with
  | held before _ _ _ _ => exact absurd stage before.1
  | released _ free stillDrained => exact .ended rfl free (drained stillDrained) gone
  | ended other _ _ _ =>
      rw [stage] at other
      cases other

theorem shut [Transport σ]
    {step : ShutdownStep}
    (state : ClaimState guard site)
    (starts : StartsClosing site)
    (shut : site.shut? step = some later) :
    ClaimState guard later := by
  cases step with
  | request =>
      obtain ⟨_, rfl⟩ | ⟨opened, rfl⟩ := request_cases shut
      · exact state
      · exact state.of_advance (by simp [starts opened]) (by simp) rfl rfl nofun
  | hangUp =>
      obtain ⟨stage, _, rfl⟩ := hangUp_cases shut
      exact state.of_advance (by simp [stage]) (by simp) rfl rfl nofun
  | receive =>
      obtain ⟨stage, ended, rfl⟩ := receive_cases shut
      exact state.of_advance (by simp [stage]) (by simp) rfl rfl
        (fun _ worker => absurd worker ended)
  | giveUp =>
      obtain ⟨stage, _, rfl⟩ := giveUp_cases shut
      exact state.of_advance (by simp [stage]) (by simp) rfl rfl (fun _ _ => rfl)
  | release =>
      obtain ⟨stage, rfl⟩ := release_cases shut
      exact state.release stage
  | close =>
      obtain ⟨stage, ⟨_, rfl⟩ | ⟨gone, rfl⟩⟩ := close_cases shut
      · have ended : ClaimState guard { site with
            queue := { site.queue with
              transport := (Transport.close site.queue.transport).2
              custody := .closed }
            stage := .ended } :=
          state.close stage Custody.noConfusion (fun _ worker => nomatch worker)
        exact ended.of_leavesClaim ⟨rfl, rfl, rfl, rfl, rfl, .inl rfl⟩
      · exact state.close stage gone id

end ClaimState

/-- The steps of callers and of the worker leave the claim alone. -/
theorem leavesClaim_of_step? [Transport σ]
    {action : QueueAction σ}
    (stepped : site.step? action = some later)
    (noShutdown : ∀ step, action ≠ .shut step) :
    LeavesClaim site later := by
  cases action with
  | enter caller strategy =>
      obtain ⟨_, ⟨_, rfl⟩ | ⟨_, rfl⟩⟩ := enter?_cases stepped
      · exact ⟨rfl, rfl, rfl, rfl, rfl, .inl rfl⟩
      · exact ⟨rfl, rfl, rfl, rfl, rfl, .inl rfl⟩
  | handOver =>
      obtain ⟨caller, strategy, _, ⟨_, rfl⟩ | ⟨_, rfl⟩⟩ := handOver?_cases stepped
      · exact ⟨rfl, rfl, rfl, rfl, rfl, .inl rfl⟩
      · exact ⟨rfl, rfl, rfl, rfl, rfl, .inl rfl⟩
  | finishWait caller ticket timeout =>
      obtain ⟨_, rfl⟩ := finishWait?_cases stepped
      exact ⟨rfl, rfl, rfl, rfl, rfl, .inl rfl⟩
  | forget caller ticket =>
      have made := forget?_cases stepped
      subst made
      exact ⟨rfl, rfl, rfl, rfl, rfl, .inl rfl⟩
  | work step => exact leavesClaim_work stepped
  | shut step => exact absurd rfl (noShutdown step)

/-- Every step of a shutdown but the request needs a shutdown that has begun. -/
theorem started_of_shut? [Transport σ]
    {step : ShutdownStep}
    (shut : site.shut? step = some later)
    (other : step ≠ .request) :
    site.stage ≠ .unstarted ∧ later.queue.closing = site.queue.closing := by
  cases step with
  | request => exact absurd rfl other
  | hangUp =>
      obtain ⟨stage, _, rfl⟩ := hangUp_cases shut
      exact ⟨by simp [stage], rfl⟩
  | receive =>
      obtain ⟨stage, _, rfl⟩ := receive_cases shut
      exact ⟨by simp [stage], rfl⟩
  | giveUp =>
      obtain ⟨stage, _, rfl⟩ := giveUp_cases shut
      exact ⟨by simp [stage], rfl⟩
  | release =>
      obtain ⟨stage, rfl⟩ := release_cases shut
      exact ⟨by simp [stage], rfl⟩
  | close =>
      obtain ⟨stage, ⟨_, rfl⟩ | ⟨_, rfl⟩⟩ := close_cases shut
      · exact ⟨by simp [stage], rfl⟩
      · exact ⟨by simp [stage], rfl⟩

theorem StartsClosing.step [Transport σ]
    {action : QueueAction σ}
    (starts : StartsClosing site)
    (stepped : site.step? action = some later) :
    StartsClosing later := by
  cases action with
  | shut step =>
      by_cases request : step = .request
      · subst request
        obtain ⟨_, rfl⟩ | ⟨_, rfl⟩ := request_cases stepped
        · exact starts
        · exact nofun
      · obtain ⟨started, closing⟩ := started_of_shut? stepped request
        exact fun opened => absurd (starts (closing ▸ opened)) started
  | _ =>
      have leaves := leavesClaim_of_step? stepped nofun
      intro opened
      rw [leaves.stage]
      exact starts (leaves.closing ▸ opened)

theorem ClaimState.step [Transport σ]
    {action : QueueAction σ}
    (state : ClaimState guard site)
    (starts : StartsClosing site)
    (stepped : site.step? action = some later) :
    ClaimState guard later := by
  cases action with
  | shut step => exact state.shut starts stepped
  | _ => exact state.of_leavesClaim (leavesClaim_of_step? stepped nofun)

section Runs

variable [Transport σ]
  {transport : σ}
  {settings : QueueSettings}
  {registry : ClaimRegistry}
  {actions : List (QueueAction σ)}

theorem claimState_of_run?
    (claimed : registry.isClaimed guard.path = true)
    (ran : run? actions (start transport settings (some guard) registry) = some site) :
    ClaimState guard site := by
  have fresh : ClaimState guard (start transport settings (some guard) registry) :=
    .held (by simp [start]) rfl claimed Custody.noConfusion nofun
  refine (run?_induction (fun site => StartsClosing site ∧ ClaimState guard site)
    ⟨fun _ => rfl, fresh⟩ ?_ ran).2
  rintro action _ before after ⟨starts, state⟩ stepped
  exact ⟨starts.step stepped, state.step starts stepped⟩

/-- In every interleaving the path of the guard is claimed until the first shutdown releases it:
up to then no other claim on it succeeds and the transport is not closed. Behind the release the
path is free and can be claimed again. A transport that is not closed or lost then is either
with a worker that the shutdown gave up waiting for, or returned and about to be closed. -/
theorem claimed_until_released
    (claimed : registry.isClaimed guard.path = true)
    (ran : run? actions (start transport settings (some guard) registry) = some site) :
    (site.stage ≠ .released ∧ site.stage ≠ .ended →
      site.registry.isClaimed guard.path = true ∧
      site.registry.claim guard.path = .error (.claimConflict guard.path) ∧
      site.queue.custody ≠ .closed) ∧
    (site.stage = .released ∨ site.stage = .ended →
      site.registry.isClaimed guard.path = false ∧
      (∃ later, site.registry.claim guard.path = .ok (guard, later)) ∧
      (site.queue.custody = .worker → site.queue.abandoned = true) ∧
      (site.queue.custody = .returned → site.stage = .released)) := by
  cases claimState_of_run? claimed ran with
  | held before _ stillClaimed unclosed _ =>
      refine ⟨fun _ => ⟨stillClaimed, ClaimRegistry.claim_of_claimed stillClaimed, unclosed⟩, ?_⟩
      rintro (released | ended)
      · exact absurd released before.1
      · exact absurd ended before.2
  | released stage free drained =>
      refine ⟨fun before => absurd stage before.1, fun _ => ⟨free, ?_, drained, fun _ => stage⟩⟩
      obtain ⟨later, made, -⟩ := ClaimRegistry.claim_of_free free
      exact ⟨later, made⟩
  | ended stage free drained gone =>
      refine ⟨fun before => absurd stage before.2, fun _ => ⟨free, ?_, drained, ?_⟩⟩
      · obtain ⟨later, made, -⟩ := ClaimRegistry.claim_of_free free
        exact ⟨later, made⟩
      · exact fun returned => absurd returned gone

end Runs

/-- An idle queue is shut down: another claim fails up to the release and succeeds behind it,
before the transport is closed. -/
theorem claimed_until_released_before_close :
    let port : SerialPort := { name := "port", line := .quiet [] .silent }
    let guard : ClaimGuard := ⟨"port"⟩
    let registry := ClaimRegistry.ofPaths ["port"]
    let actions : List (QueueAction SerialPort) :=
      [.shut .request, .shut .hangUp, .work .retire, .shut .receive]
    registry.isClaimed guard.path = true ∧
      (∃ site, run? actions (start port {} (some guard) registry) = some site ∧
        site.queue.custody = .returned ∧
        site.registry.claim "port" = .error (.claimConflict "port")) ∧
      ∃ site, run? (actions ++ [.shut .release]) (start port {} (some guard) registry) =
          some site ∧
        site.queue.custody = .returned ∧
        ∃ later, site.registry.claim "port" = .ok (guard, later) := by
  intro port guard registry actions
  have claimed : registry.isClaimed guard.path = true := rfl
  obtain ⟨drained, ran, custody, stage⟩ :
      ∃ site, run? actions (start port {} (some guard) registry) = some site ∧
        site.queue.custody = .returned ∧ site.stage = .drained := ⟨_, rfl, rfl, rfl⟩
  obtain ⟨released, ranOn, stillReturned, stageOn⟩ :
      ∃ site, run? (actions ++ [.shut .release]) (start port {} (some guard) registry) =
          some site ∧
        site.queue.custody = .returned ∧ site.stage = .released := ⟨_, rfl, rfl, rfl⟩
  obtain ⟨-, conflict, -⟩ := (claimed_until_released claimed ran).1 (by simp [stage])
  obtain ⟨-, again, -⟩ := (claimed_until_released claimed ranOn).2 (.inl stageOn)
  exact ⟨claimed, ⟨drained, ran, custody, conflict⟩, released, ranOn, stillReturned, again⟩

/-- A shutdown gives up waiting for a strategy that the worker has begun and releases the claim:
the path can be claimed again while the worker still has the transport and is at the strategy. -/
theorem free_while_strategy_runs :
    let port : SerialPort := { name := "port", line := .quiet [] .silent }
    let guard : ClaimGuard := ⟨"port"⟩
    let running := Strategy.rehearsed "Running" (some [0x4C]) (.ok .success)
    ∃ site, run?
        [.enter 0 running, .handOver, .work .take, .shut .request, .shut .hangUp, .shut .giveUp,
          .shut .release]
        (start port {} (some guard) (ClaimRegistry.ofPaths ["port"])) = some site ∧
      site.queue.custody = .worker ∧ site.queue.current? = some 0 ∧
      site.registry.isClaimed "port" = false ∧
      ∃ later, site.registry.claim "port" = .ok (guard, later) :=
  ⟨_, rfl, rfl, rfl, rfl, _, rfl⟩

end SharedQueue

end DeviceLink
