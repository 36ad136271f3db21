import DeviceLink.Proofs.Queue.Draining

/-!
# A connection gives its claim back

A connection to a report device that fails leaves the registry as it was. One
that succeeds holds one more claim, on the path of the device that it opened.
A shutdown takes that claim back before it closes the transport, however the
drain ended, so that neither work that is left nor the close can keep it.
-/

namespace DeviceLink

open QueueSession

theorem ReportConnection.port_of_ofPort?
    {port : ReportPort}
    {descriptor : DeviceDescriptor}
    {connection : ReportConnection}
    (made : ofPort? port descriptor = .ok connection) :
    connection.port = port := by
  unfold ofPort? at made
  cases required : descriptor.requireReports with
  | error cause =>
      rw [required] at made
      cases made
  | ok layout =>
      rw [required] at made
      cases checked : layout.check with
      | error cause =>
          simp [checked, bind, Except.bind] at made
      | ok done =>
          simp only [checked, bind, Except.bind, pure, Except.pure, Except.ok.injEq] at made
          rw [← made]

/-- A port is opened at the path of its descriptor. -/
theorem ReportBus.path_of_opener
    {registry : ClaimRegistry}
    {descriptor : DeviceDescriptor}
    {bus later : ReportBus}
    {port : ReportPort}
    (opened : opener registry descriptor bus = (.ok port, later)) :
    port.path = descriptor.path := by
  unfold opener at opened
  split at opened
  next => cases opened
  next unit _ =>
    dsimp only at opened
    split at opened
    next => cases opened
    next =>
      cases opened
      rfl

/-- A connection leaves the registry alone, or it starts a queue that holds its one new claim. -/
theorem QueueSession.connectReports_cases
    {bus after : ReportBus}
    {spec : ReportDeviceSpec}
    {registry claimed : ClaimRegistry}
    {settings : QueueSettings}
    {outcome : Except LinkError (QueueSession ReportConnection)}
    (connected : connectReports bus spec registry settings = (outcome, claimed, after)) :
    (∃ cause, outcome = .error cause ∧ claimed = registry) ∨
    ∃ connection descriptor,
      outcome = .ok
        { queue := .start connection settings (some ⟨descriptor.path⟩), registry := claimed } ∧
      descriptor ∈ bus.find spec ∧ connection.port.path = descriptor.path ∧
      registry.tryClaim descriptor.path = (true, claimed) := by
  unfold connectReports at connected
  cases opened : bus.openDevice spec registry with
  | mk result rest =>
      obtain ⟨later, final⟩ := rest
      rw [opened] at connected
      obtain ⟨cause, rfl, rfl⟩ | ⟨acquired, before, rfl, member, guard, granted, handle⟩ :=
        ClaimRegistry.acquireFrom_cases opened
      · cases connected
        exact .inl ⟨cause, rfl, rfl⟩
      · dsimp only at connected
        cases made : ReportConnection.ofPort? acquired.handle acquired.descriptor with
        | error cause =>
            rw [made, guard] at connected
            cases connected
            exact .inl ⟨cause, rfl, ClaimRegistry.release_of_tryClaim granted⟩
        | ok connection =>
            rw [made, guard] at connected
            cases connected
            refine .inr ⟨connection, acquired.descriptor, rfl, member, ?_, granted⟩
            rw [ReportConnection.port_of_ofPort? made, ReportBus.path_of_opener handle]

namespace SharedQueue

/-- Before the release of the claim the registry is as it was claimed, and behind it the claim is
taken back. -/
inductive Returning {σ : Type} (claimed : ClaimRegistry) (guard : ClaimGuard)
    (site : SharedQueue σ) : Prop
  | holding
      (before : site.stage ≠ .released ∧ site.stage ≠ .ended)
      (guarded : site.queue.guard = some guard)
      (registry : site.registry = claimed)
  | returned
      (behind : site.stage = .released ∨ site.stage = .ended)
      (registry : site.registry = claimed.release guard.path)

section Returning

variable {σ : Type} {site later : SharedQueue σ} {claimed : ClaimRegistry} {guard : ClaimGuard}

namespace Returning

/-- A step that leaves the registry, the guard and the side of the release alone. -/
theorem of_same
    (returning : Returning claimed guard site)
    (side : (later.stage = .released ∨ later.stage = .ended) ↔
      (site.stage = .released ∨ site.stage = .ended))
    (sameGuard : later.queue.guard = site.queue.guard)
    (sameRegistry : later.registry = site.registry) :
    Returning claimed guard later := by
  cases returning with
  | holding before guarded registry =>
      refine .holding ?_ (sameGuard.trans guarded) (sameRegistry.trans registry)
      rw [← not_or, side, not_or]
      exact before
  | returned behind registry => exact .returned (side.2 behind) (sameRegistry.trans registry)

/-- The release takes the claim back. -/
theorem release
    (returning : Returning claimed guard site)
    (stage : site.stage = .drained) :
    Returning claimed guard { site with
      queue := { site.queue with guard := none }
      registry := (site.queue.releaseGuard site.registry).2
      stage := .released } := by
  cases returning with
  | holding _ guarded registry =>
      refine .returned (.inl rfl) ?_
      rw [CommandQueue.releaseGuard, guarded, registry]
  | returned behind _ => simp [stage] at behind

theorem shut [Transport σ]
    {step : ShutdownStep}
    (returning : Returning claimed guard site)
    (starts : StartsClosing site)
    (shut : site.shut? step = some later) :
    Returning claimed guard later := by
  cases step with
  | request =>
      obtain ⟨_, rfl⟩ | ⟨opened, rfl⟩ := request_cases shut
      · exact returning
      · exact returning.of_same (by simp [starts opened]) rfl rfl
  | hangUp =>
      obtain ⟨stage, _, rfl⟩ := hangUp_cases shut
      exact returning.of_same (by simp [stage]) rfl rfl
  | receive =>
      obtain ⟨stage, _, rfl⟩ := receive_cases shut
      exact returning.of_same (by simp [stage]) rfl rfl
  | giveUp =>
      obtain ⟨stage, _, rfl⟩ := giveUp_cases shut
      exact returning.of_same (by simp [stage]) rfl rfl
  | release =>
      obtain ⟨stage, rfl⟩ := release_cases shut
      exact returning.release stage
  | close =>
      obtain ⟨stage, ⟨_, rfl⟩ | ⟨_, rfl⟩⟩ := close_cases shut
      · exact returning.of_same (by simp [stage, note]) rfl rfl
      · exact returning.of_same (by simp [stage]) rfl rfl

theorem step [Transport σ]
    {action : QueueAction σ}
    (returning : Returning claimed guard site)
    (starts : StartsClosing site)
    (stepped : site.step? action = some later) :
    Returning claimed guard later := by
  cases action with
  | shut step => exact returning.shut starts stepped
  | _ =>
      have leaves := leavesClaim_of_step? stepped nofun
      exact returning.of_same (by rw [leaves.stage]) leaves.guard leaves.registry

end Returning

theorem returning_of_run? [Transport σ]
    {actions : List (QueueAction σ)}
    (returning : Returning claimed guard site)
    (state : DrainState site)
    (ran : run? actions site = some later) :
    Returning claimed guard later ∧ DrainState later := by
  refine run?_induction (fun site => Returning claimed guard site ∧ DrainState site)
    ⟨returning, state⟩ ?_ ran
  rintro action _ before after ⟨returning, state⟩ stepped
  exact ⟨returning.step state.starts.1 stepped, state.step stepped⟩

end Returning

/-- A connection to a report device leaves no claim behind, for every list of devices and every
outcome of opening them. One that fails leaves the registry as it was. One that succeeds has
claimed the path of the device that it opened, which was free, and no other path. In every
interleaving of its users, and however closing the device goes, the registry stays so until the
shutdown releases the claim, and from then on it is the one from before the connection. The
shutdown can always end, without any help of the worker. -/
theorem connectReports_returns_claim
    (bus : ReportBus)
    (spec : ReportDeviceSpec)
    (registry : ClaimRegistry)
    (settings : QueueSettings) :
    (∀ cause later after,
      connectReports bus spec registry settings = (.error cause, later, after) →
      later = registry) ∧
    ∀ session claimed after,
      connectReports bus spec registry settings = (.ok session, claimed, after) →
      ∃ descriptor ∈ bus.find spec,
        session.queue.transport.port.path = descriptor.path ∧
        registry.isClaimed descriptor.path = false ∧
        (∀ path, claimed.isClaimed path = (path == descriptor.path || registry.isClaimed path)) ∧
        ∀ (_ : Transport ReportConnection) actions site,
          run? actions (ofSession session) = some site →
          (site.stage ≠ .released ∧ site.stage ≠ .ended → site.registry = claimed) ∧
          (site.stage = .released ∨ site.stage = .ended → site.registry = registry) ∧
          ∃ closing later, run? closing site = some later ∧
            (∀ action ∈ closing, IsClosingStep action) ∧
            later.stage = .ended ∧ later.registry = registry := by
  refine ⟨?_, ?_⟩
  · intro cause later after failed
    obtain ⟨_, _, same⟩ | ⟨_, _, succeeded, -⟩ := connectReports_cases failed
    · exact same
    · cases succeeded
  · intro session claimed after connected
    obtain ⟨cause, failed, -⟩ | ⟨connection, descriptor, same, member, port, granted⟩ :=
        connectReports_cases connected
    · cases failed
    cases same
    refine ⟨descriptor, member, port, (ClaimRegistry.tryClaim_cases granted).1,
      ClaimRegistry.isClaimed_of_tryClaim granted, ?_⟩
    -- The queue is as it was started, whatever transport its users take the connection for.
    let queue := CommandQueue.start connection settings (some ⟨descriptor.path⟩)
    let fresh := ofSession { queue := queue, registry := claimed }
    have holding : Returning claimed ⟨descriptor.path⟩ fresh :=
      .holding (by simp [fresh, ofSession]) rfl rfl
    have unused : DrainState fresh := .of_fresh rfl rfl rfl rfl
    intro transport actions site ran
    have behind : ∀ {site : SharedQueue ReportConnection} {actions},
        run? actions fresh = some site →
        site.stage = .released ∨ site.stage = .ended → site.registry = registry := by
      intro site actions ran released
      cases (returning_of_run? holding unused ran).1 with
      | holding before _ _ => exact absurd released (not_or.2 before)
      | returned _ taken => rw [taken, ClaimRegistry.release_of_tryClaim granted]
    obtain ⟨returning, state⟩ := returning_of_run? holding unused ran
    refine ⟨?_, behind ran, ?_⟩
    · intro before
      cases returning with
      | holding _ _ kept => exact kept
      | returned released _ => exact absurd released (not_or.2 before)
    · obtain ⟨closing, later, ranOn, kinds, ended⟩ := canEnd state.starts.2
      have whole : run? (actions ++ closing) fresh = some later := by
        rw [run?_append, ran]
        exact ranOn
      exact ⟨closing, later, ranOn, kinds, ended, behind whole (.inr ended)⟩

/-- A search passes over a claimed device and one that fails to open, and connects to the third.
A shutdown gives up on a strategy that is running, and the worker keeps the transport: the one
claim of the connection is taken back, and the claim of the other device stays. -/
theorem connectReports_returns_claim_drain_timeout :
    let unit := fun (path : String) (openError : Option String) =>
      { path := path, vendor := 0x2354, product := 0x1111, openError := openError,
        port := { path := path } : ReportUnit }
    let bus := [unit "a" none, unit "b" (some "no such device"), unit "c" none]
    let spec : ReportDeviceSpec :=
      { name := "Finch", vendor := 0x2354, product := 0x1111, reports := ⟨9, 9, false⟩ }
    let registry := ClaimRegistry.ofPaths ["a"]
    let running := Strategy.ofRequest { command := ⟨[0x4C]⟩, size := 0 }
    ∃ session claimed after site,
      connectReports bus spec registry {} = (.ok session, claimed, after) ∧
      claimed.paths = ["c", "a"] ∧
      run? [.enter 0 running, .handOver, .work .take, .shut .request, .shut .hangUp,
        .shut .giveUp, .shut .release, .shut .close] (ofSession session) = some site ∧
      site.queue.custody = .worker ∧ site.registry = registry := by
  intro unit bus spec registry running
  obtain ⟨session, claimed, after, connected, paths, opened⟩ :
      ∃ session claimed after,
        connectReports bus spec registry {} = (.ok session, claimed, after) ∧
        claimed.paths = ["c", "a"] ∧
        ∃ site, run? [.enter 0 running, .handOver, .work .take, .shut .request, .shut .hangUp,
            .shut .giveUp, .shut .release, .shut .close] (ofSession session) = some site ∧
          site.queue.custody = .worker ∧ site.stage = .ended :=
    ⟨_, _, _, rfl, rfl, _, rfl, rfl, rfl⟩
  obtain ⟨site, ran, custody, stage⟩ := opened
  obtain ⟨descriptor, -, -, -, -, runs⟩ :=
    (connectReports_returns_claim bus spec registry {}).2 session claimed after connected
  obtain ⟨-, back, -⟩ := runs _ _ site ran
  exact ⟨session, claimed, after, site, connected, paths, ran, custody, back (.inr stage)⟩

end SharedQueue

end DeviceLink
