import DeviceLink.Proofs.Queue.Steps

/-!
# What interleavings show of callers

Every step adds a few events to the journal. The accepted strategies come from
the entrance, what is in the entrance was handed in by the caller it belongs
to, the tickets that callers hold are those they were given, and a wait ends
with what its caller sees.
-/

namespace DeviceLink

namespace SharedQueue

variable {σ : Type}

/-- What a step shows of callers: the events it adds to the journal, and where the strategy in
the entrance and the tickets that are held come from. -/
structure CallerEffect
    (action : QueueAction σ)
    (site later : SharedQueue σ)
    (events : List (QueueEvent σ)) : Prop where
  /-- These events are added to the journal. -/
  journal : later.journal = events ++ site.journal
  /-- Whoever is accepted stood in the entrance. -/
  accepted : ∀ caller job, .accepted caller job ∈ events →
    site.entering = some (caller, job.strategy)
  /-- Whoever is answered held the ticket, and gets what the holder of the ticket sees. -/
  answered : ∀ caller ticket timeout answer, .answered caller ticket timeout answer ∈ events →
    (caller, ticket) ∈ site.held ∧ answer = (site.queue.reply ticket).answer timeout
  /-- A ticket was held before, or belongs to a job that is accepted in the step. -/
  held : ∀ caller ticket, (caller, ticket) ∈ later.held →
    (caller, ticket) ∈ site.held ∨ ∃ job, .accepted caller job ∈ events ∧ job.ticket = ticket
  /-- Whoever stands in the entrance stood there before or enters in the step. -/
  entering : ∀ caller strategy, later.entering = some (caller, strategy) →
    site.entering = some (caller, strategy) ∨ action = .enter caller strategy

section Effects

variable {action : QueueAction σ} {site later : SharedQueue σ}

/-- A step that leaves the callers alone shows nothing of them. -/
theorem callerEffect_of_quiet
    {events : List (QueueEvent σ)}
    (journal : later.journal = events ++ site.journal)
    (noneAccepted : ∀ caller job, .accepted caller job ∉ events)
    (noneAnswered : ∀ caller ticket timeout answer,
      .answered caller ticket timeout answer ∉ events)
    (held : later.held = site.held)
    (entering : later.entering = site.entering) :
    CallerEffect action site later events where
  journal := journal
  accepted := fun caller job member => absurd member (noneAccepted caller job)
  answered := fun caller ticket timeout answer member =>
    absurd member (noneAnswered caller ticket timeout answer)
  held := fun _ _ member => .inl (held ▸ member)
  entering := fun _ _ same => .inl (entering ▸ same)

theorem callerEffect_enter
    {caller : Caller}
    {strategy : Strategy σ}
    (entered : site.enter? caller strategy = some later) :
    ∃ events, CallerEffect (.enter caller strategy) site later events := by
  obtain ⟨_, ⟨_, rfl⟩ | ⟨_, rfl⟩⟩ := enter?_cases entered
  · refine ⟨[], rfl, by simp, by simp, fun _ _ member => .inl member, ?_⟩
    intro other strange same
    simp only [Option.some.injEq, Prod.mk.injEq] at same
    obtain ⟨rfl, rfl⟩ := same
    exact .inr rfl
  · exact ⟨[.refused caller], callerEffect_of_quiet rfl (by simp) (by simp) rfl rfl⟩

theorem callerEffect_handOver (handed : site.handOver? = some later) :
    ∃ events, CallerEffect .handOver site later events := by
  obtain ⟨caller, strategy, entering, ⟨_, rfl⟩ | ⟨_, rfl⟩⟩ := handOver?_cases handed
  · refine ⟨[.accepted caller ⟨site.queue.nextTicket, strategy⟩], rfl, ?_, by simp, ?_,
      fun _ _ same => nomatch same⟩
    · intro other job member
      simp only [List.mem_singleton, QueueEvent.accepted.injEq] at member
      obtain ⟨rfl, rfl⟩ := member
      exact entering
    · intro other ticket member
      rcases List.mem_cons.1 member with fresh | old
      · obtain ⟨rfl, rfl⟩ := Prod.mk.inj fresh
        exact .inr ⟨_, List.mem_singleton.2 rfl, rfl⟩
      · exact .inl old
  · exact ⟨[.refused caller], rfl, by simp, by simp, fun _ _ member => .inl member,
      fun _ _ same => nomatch same⟩

theorem callerEffect_finishWait
    {caller : Caller}
    {ticket : Ticket}
    {timeout : Duration}
    (waited : site.finishWait? caller ticket timeout = some later) :
    ∃ events, CallerEffect (.finishWait caller ticket timeout) site later events := by
  obtain ⟨holds, rfl⟩ := finishWait?_cases waited
  refine ⟨[.answered caller ticket timeout ((site.queue.reply ticket).answer timeout)], rfl,
    by simp, ?_, fun _ _ member => .inl (List.mem_of_mem_erase member), fun _ _ same => .inl same⟩
  intro other its limit answer member
  simp only [List.mem_singleton, QueueEvent.answered.injEq] at member
  obtain ⟨rfl, rfl, rfl, rfl⟩ := member
  exact ⟨holds, rfl⟩

theorem takenEvent_quiet (later : CommandQueue σ) :
    (∀ caller job, .accepted caller job ∉ [takenEvent later]) ∧
      ∀ caller ticket timeout answer,
        .answered caller ticket timeout answer ∉ [takenEvent later] := by
  unfold takenEvent
  cases later.current? <;> simp

theorem performedEvent_quiet (later : CommandQueue σ) :
    (∀ caller job, .accepted caller job ∉ [performedEvent later]) ∧
      ∀ caller ticket timeout answer,
        .answered caller ticket timeout answer ∉ [performedEvent later] := by
  unfold performedEvent
  cases later.activity <;> simp

theorem deliveredEvent_quiet (before : CommandQueue σ) :
    (∀ caller job, .accepted caller job ∉ [deliveredEvent before]) ∧
      ∀ caller ticket timeout answer,
        .answered caller ticket timeout answer ∉ [deliveredEvent before] := by
  unfold deliveredEvent
  cases before.current? <;> simp

theorem callerEffect_work
    {step : WorkerStep}
    (worked : site.work? step = some later) :
    ∃ events, CallerEffect (.work step) site later events := by
  cases step with
  | take =>
      obtain ⟨queue, _, rfl⟩ := Option.map_eq_some_iff.1 worked
      exact ⟨[takenEvent queue], callerEffect_of_quiet rfl (takenEvent_quiet queue).1
        (takenEvent_quiet queue).2 rfl rfl⟩
  | perform =>
      obtain ⟨queue, _, rfl⟩ := Option.map_eq_some_iff.1 worked
      exact ⟨[performedEvent queue], callerEffect_of_quiet rfl (performedEvent_quiet queue).1
        (performedEvent_quiet queue).2 rfl rfl⟩
  | deliver =>
      obtain ⟨queue, _, rfl⟩ := Option.map_eq_some_iff.1 worked
      exact ⟨[deliveredEvent site.queue], callerEffect_of_quiet rfl
        (deliveredEvent_quiet site.queue).1 (deliveredEvent_quiet site.queue).2 rfl rfl⟩
  | retire =>
      obtain ⟨queue, _, rfl⟩ := Option.map_eq_some_iff.1 worked
      exact ⟨[.retired], callerEffect_of_quiet rfl (by simp) (by simp) rfl rfl⟩

theorem callerEffect_shut [Transport σ]
    {step : ShutdownStep}
    (shut : site.shut? step = some later) :
    ∃ events, CallerEffect (.shut step) site later events := by
  cases step with
  | request =>
      obtain ⟨_, rfl⟩ | ⟨_, rfl⟩ := request_cases shut
      · exact ⟨[], callerEffect_of_quiet rfl (by simp) (by simp) rfl rfl⟩
      · exact ⟨[], callerEffect_of_quiet rfl (by simp) (by simp) rfl rfl⟩
  | hangUp =>
      obtain ⟨_, _, rfl⟩ := hangUp_cases shut
      exact ⟨[], callerEffect_of_quiet rfl (by simp) (by simp) rfl rfl⟩
  | receive =>
      obtain ⟨_, _, rfl⟩ := receive_cases shut
      exact ⟨[], callerEffect_of_quiet rfl (by simp) (by simp) rfl rfl⟩
  | giveUp =>
      obtain ⟨_, _, rfl⟩ := giveUp_cases shut
      exact ⟨[], callerEffect_of_quiet rfl (by simp) (by simp) rfl rfl⟩
  | release =>
      obtain ⟨_, rfl⟩ := release_cases shut
      exact ⟨[], callerEffect_of_quiet rfl (by simp) (by simp) rfl rfl⟩
  | close =>
      obtain ⟨_, ⟨_, rfl⟩ | ⟨_, rfl⟩⟩ := close_cases shut
      · exact ⟨[_], callerEffect_of_quiet rfl (by simp) (by simp) rfl rfl⟩
      · exact ⟨[], callerEffect_of_quiet rfl (by simp) (by simp) rfl rfl⟩

theorem step?_callerEffect [Transport σ]
    (stepped : site.step? action = some later) :
    ∃ events, CallerEffect action site later events := by
  cases action with
  | enter caller strategy => exact callerEffect_enter stepped
  | handOver => exact callerEffect_handOver stepped
  | finishWait caller ticket timeout => exact callerEffect_finishWait stepped
  | forget caller ticket =>
      have made := forget?_cases stepped
      subst made
      exact ⟨[], rfl, by simp, by simp, fun _ _ member => .inl (List.mem_of_mem_erase member),
        fun _ _ same => .inl same⟩
  | work step => exact callerEffect_work stepped
  | shut step => exact callerEffect_shut stepped

end Effects

/-! ### Where strategies and tickets come from -/

/-- The job of an accepting event is among the accepted jobs, and each of those has one. -/
theorem mem_jobs
    {site : SharedQueue σ}
    {job : Job σ} :
    job ∈ site.jobs ↔ ∃ caller, .accepted caller job ∈ site.journal := by
  unfold jobs
  rw [List.mem_filterMap]
  constructor
  · rintro ⟨event, member, accepting⟩
    cases event <;> simp only [QueueEvent.job?, reduceCtorEq, Option.some.injEq] at accepting
    subst accepting
    exact ⟨_, List.mem_reverse.1 member⟩
  · rintro ⟨caller, member⟩
    exact ⟨_, List.mem_reverse.2 member, rfl⟩

/-- A longer journal has the same jobs first. -/
theorem jobs_prefix
    {site later : SharedQueue σ}
    {events : List (QueueEvent σ)}
    (journal : later.journal = events ++ site.journal) :
    site.jobs <+: later.jobs := by
  unfold jobs
  rw [journal, List.reverse_append, List.filterMap_append]
  exact List.prefix_append _ _

/-- Everything in the queue was handed in by its caller. -/
structure HandedIn (actions : List (QueueAction σ)) (site : SharedQueue σ) : Prop where
  /-- The strategy in the entrance was handed in. -/
  entering : ∀ caller strategy, site.entering = some (caller, strategy) →
    .enter caller strategy ∈ actions
  /-- The strategies of accepted jobs were handed in. -/
  accepted : ∀ caller job, .accepted caller job ∈ site.journal →
    .enter caller job.strategy ∈ actions

theorem HandedIn.step [Transport σ]
    {actions : List (QueueAction σ)}
    {action : QueueAction σ}
    {site later : SharedQueue σ}
    (handedIn : HandedIn actions site)
    (member : action ∈ actions)
    (stepped : site.step? action = some later) :
    HandedIn actions later := by
  obtain ⟨events, effect⟩ := step?_callerEffect stepped
  refine ⟨?_, ?_⟩
  · intro caller strategy entering
    rcases effect.entering caller strategy entering with before | rfl
    · exact handedIn.entering caller strategy before
    · exact member
  · intro caller job accepted
    rw [effect.journal] at accepted
    rcases List.mem_append.1 accepted with fresh | old
    · exact handedIn.entering caller job.strategy (effect.accepted caller job fresh)
    · exact handedIn.accepted caller job old

/-- A caller holds only tickets of strategies it handed in. -/
def OwnTickets (site : SharedQueue σ) : Prop :=
  ∀ caller ticket, (caller, ticket) ∈ site.held →
    ∃ job, .accepted caller job ∈ site.journal ∧ job.ticket = ticket

theorem OwnTickets.step [Transport σ]
    {action : QueueAction σ}
    {site later : SharedQueue σ}
    (own : OwnTickets site)
    (stepped : site.step? action = some later) :
    OwnTickets later := by
  obtain ⟨events, effect⟩ := step?_callerEffect stepped
  intro caller ticket held
  rw [effect.journal]
  rcases effect.held caller ticket held with before | ⟨job, fresh, ticketOf⟩
  · obtain ⟨job, accepted, ticketOf⟩ := own caller ticket before
    exact ⟨job, List.mem_append_right _ accepted, ticketOf⟩
  · exact ⟨job, List.mem_append_left _ fresh, ticketOf⟩

end SharedQueue

end DeviceLink
