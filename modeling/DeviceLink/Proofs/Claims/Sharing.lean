import DeviceLink.Proofs.Claims.Registry
import Mathlib.Data.List.Nodup

/-!
# Users of one registry

Any number of users work on one registry. All handles on it share one set of
paths, so it does not matter through which of them a step goes. A claim that
goes well has a number, by which its holder is known; the guards that are
alive stand for claims with a guard.

As long as nobody releases a path past a live guard, at most one guard for the
path is alive, the path is claimed, and the newest claim on it is the one of
that guard. A release past a live guard takes the claim away from it.
-/

namespace DeviceLink

/-- The number of a claim that went well. -/
abbrev ClaimNumber : Type := Nat

/-- One step of a user of a registry. -/
inductive RegistryAction
  | tryClaim (path : String)
  | claim (path : String)
  | release (path : String)
  | releaseGuard (number : ClaimNumber)
  | dropGuard (number : ClaimNumber)

/-- A guard that was neither released nor dropped, with the number of its claim. -/
structure LiveGuard where
  /-- The number of the claim. -/
  number : ClaimNumber
  /-- The guard itself. -/
  guard : ClaimGuard
  deriving DecidableEq

/-- A registry with the guards that are alive, and all claims that went well, newest first. -/
structure SharedRegistry where
  /-- The registry that all users share. -/
  registry : ClaimRegistry
  /-- The guards that are alive. -/
  guards : List LiveGuard := []
  /-- The paths and numbers of the claims that went well. -/
  claims : List (String × ClaimNumber) := []

namespace SharedRegistry

/-- A registry before anybody holds a guard. -/
def start (registry : ClaimRegistry) : SharedRegistry where
  registry := registry

/-! ### Steps -/

/-- Claim a path without a guard. -/
def tryClaim (path : String) (site : SharedRegistry) : SharedRegistry :=
  match site.registry.tryClaim path with
  | (true, registry) =>
      { site with
        registry := registry
        claims := (path, site.claims.length) :: site.claims }
  | (false, registry) => { site with registry := registry }

/-- Claim a path for a guard. -/
def claim (path : String) (site : SharedRegistry) : SharedRegistry :=
  match site.registry.claim path with
  | .ok (guard, registry) =>
      { registry := registry
        guards := ⟨site.claims.length, guard⟩ :: site.guards
        claims := (path, site.claims.length) :: site.claims }
  | .error _ => site

/-- Release a path, whoever holds it. -/
def release (path : String) (site : SharedRegistry) : SharedRegistry :=
  { site with registry := site.registry.release path }

/-- End the life of a guard, which releases its path. -/
def surrender? (number : ClaimNumber) (site : SharedRegistry) : Option SharedRegistry :=
  (site.guards.find? fun live => live.number == number).map fun live =>
    { site with
      registry := site.registry.release live.guard.path
      guards := site.guards.erase live }

/-- One step, absent where it needs a guard that is not alive. A guard that is released is dropped
with nothing left to release, so both ends of its life are the same. -/
def step? (site : SharedRegistry) : RegistryAction → Option SharedRegistry
  | .tryClaim path => some (site.tryClaim path)
  | .claim path => some (site.claim path)
  | .release path => some (site.release path)
  | .releaseGuard number => site.surrender? number
  | .dropGuard number => site.surrender? number

/-- Steps in any order, absent where one of them needs a guard that is not alive. -/
def run? : List RegistryAction → SharedRegistry → Option SharedRegistry
  | [], site => some site
  | action :: actions, site => (site.step? action).bind (run? actions)

variable {site later : SharedRegistry} {path : String} {number : ClaimNumber}

/-- An attempt goes well and is counted, or changes nothing. -/
theorem tryClaim_cases (path : String) (site : SharedRegistry) :
    (∃ registry, site.registry.tryClaim path = (true, registry) ∧
      site.tryClaim path =
        { site with
          registry := registry
          claims := (path, site.claims.length) :: site.claims }) ∨
    site.tryClaim path = site := by
  cases taken : site.registry.isClaimed path with
  | true =>
      right
      rw [tryClaim, ClaimRegistry.tryClaim_of_claimed taken]
  | false =>
      left
      obtain ⟨registry, made, -⟩ := ClaimRegistry.claim_of_free taken
      have claimed := (ClaimRegistry.claim_cases made).2
      refine ⟨registry, claimed, ?_⟩
      rw [tryClaim, claimed]

/-- A claim goes well and yields a guard, or changes nothing. -/
theorem claim_cases (path : String) (site : SharedRegistry) :
    (∃ registry, site.registry.tryClaim path = (true, registry) ∧
      site.claim path =
        { registry := registry
          guards := ⟨site.claims.length, ⟨path⟩⟩ :: site.guards
          claims := (path, site.claims.length) :: site.claims }) ∨
    site.claim path = site := by
  cases made : site.registry.claim path with
  | error cause =>
      right
      rw [claim, made]
  | ok claimed =>
      obtain ⟨guard, registry⟩ := claimed
      obtain ⟨rfl, claimed⟩ := ClaimRegistry.claim_cases made
      refine .inl ⟨registry, claimed, ?_⟩
      rw [claim, made]

/-- Only a live guard can be given up. -/
theorem surrender?_cases (gone : site.surrender? number = some later) :
    ∃ live ∈ site.guards, live.number = number ∧
      later = { site with
        registry := site.registry.release live.guard.path
        guards := site.guards.erase live } := by
  obtain ⟨live, found, rfl⟩ := Option.map_eq_some_iff.1 gone
  refine ⟨live, List.mem_of_find?_eq_some found, ?_, rfl⟩
  simpa using List.find?_some found

/-- A release and a drop end the life of a guard in the same way. -/
theorem step?_surrender {action : RegistryAction}
    (ends : action = .releaseGuard number ∨ action = .dropGuard number) :
    site.step? action = site.surrender? number := by
  obtain rfl | rfl := ends
  · rfl
  · rfl

/-! ### Numbers of claims -/

/-- Live guards have different numbers, all of claims that were made. -/
structure Numbered (site : SharedRegistry) : Prop where
  /-- No two live guards have the same number. -/
  distinct : (site.guards.map LiveGuard.number).Nodup
  /-- The number of a live guard is that of a claim. -/
  made : ∀ live ∈ site.guards, live.number < site.claims.length

namespace Numbered

/-- The guard of a number is the one that is found by it. -/
theorem surrender?_eq
    {live : LiveGuard}
    (numbered : Numbered site)
    (alive : live ∈ site.guards) :
    site.surrender? live.number = some { site with
      registry := site.registry.release live.guard.path
      guards := site.guards.erase live } := by
  cases found : site.guards.find? fun other => other.number == live.number with
  | none =>
      have absent := List.find?_eq_none.1 found live alive
      simp at absent
  | some other =>
      have member := List.mem_of_find?_eq_some found
      have sameNumber : other.number = live.number := by
        simpa using List.find?_some found
      have same : other = live :=
        List.inj_on_of_nodup_map numbered.distinct member alive sameNumber
      rw [surrender?, found, same]
      rfl

theorem step
    {action : RegistryAction}
    (numbered : Numbered site)
    (stepped : site.step? action = some later) :
    Numbered later := by
  have surrendered : ∀ {number}, site.surrender? number = some later → Numbered later := by
    intro number gone
    obtain ⟨live, alive, -, rfl⟩ := surrender?_cases gone
    refine ⟨?_, ?_⟩
    · exact numbered.distinct.sublist (List.erase_sublist.map _)
    · exact fun other member => numbered.made other (List.mem_of_mem_erase member)
  cases action with
  | tryClaim path =>
      cases stepped
      obtain ⟨registry, -, made⟩ | same := site.tryClaim_cases path
      · rw [made]
        exact ⟨numbered.distinct, fun live alive => Nat.lt_succ_of_lt (numbered.made live alive)⟩
      · rw [same]
        exact numbered
  | claim path =>
      cases stepped
      obtain ⟨registry, -, made⟩ | same := site.claim_cases path
      · rw [made]
        refine ⟨?_, ?_⟩
        · rw [List.map_cons, List.nodup_cons]
          refine ⟨?_, numbered.distinct⟩
          intro member
          obtain ⟨live, alive, same⟩ := List.mem_map.1 member
          have older := numbered.made live alive
          exact Nat.ne_of_lt older same
        · intro live alive
          rw [List.length_cons]
          obtain rfl | old := List.mem_cons.1 alive
          · exact Nat.lt_succ_self _
          · exact Nat.lt_succ_of_lt (numbered.made live old)
      · rw [same]
        exact numbered
  | release path =>
      cases stepped
      exact ⟨numbered.distinct, numbered.made⟩
  | releaseGuard number => exact surrendered stepped
  | dropGuard number => exact surrendered stepped

end Numbered

/-! ### The guard of a path -/

/-- Number of live guards for a path. -/
def guardCount (path : String) (site : SharedRegistry) : Nat :=
  site.guards.countP fun live => live.guard.path == path

/-- At most one guard for the path is alive; then the path is claimed, and the newest claim on it
is the one of the guard. -/
structure Guarded (path : String) (site : SharedRegistry) : Prop where
  /-- At most one live guard has the path. -/
  single : site.guardCount path ≤ 1
  /-- The path is claimed as long as a guard for it is alive. -/
  claimed : ∀ live ∈ site.guards, live.guard.path = path → site.registry.isClaimed path = true
  /-- The last claim of the path has the number of the guard. -/
  newest : ∀ live ∈ site.guards, live.guard.path = path →
    site.claims.lookup path = some live.number

namespace Guarded

variable {other : String} {registry : ClaimRegistry} {live : LiveGuard}

/-- Without a live guard for the path there is nothing to keep. -/
theorem of_free (free : ∀ live ∈ site.guards, live.guard.path ≠ path) : Guarded path site where
  single := by
    have none : site.guardCount path = 0 := by
      apply List.countP_eq_zero.2
      intro live alive
      simpa using free live alive
    omega
  claimed := fun live alive same => absurd same (free live alive)
  newest := fun live alive same => absurd same (free live alive)

/-- No live guard has a path that is not claimed. -/
theorem free_of_unclaimed
    (guarded : Guarded path site)
    (unclaimed : site.registry.isClaimed path = false) :
    ∀ live ∈ site.guards, live.guard.path ≠ path := by
  intro live alive same
  rw [guarded.claimed live alive same] at unclaimed
  cases unclaimed

/-- A claim that goes well meets no live guard for its own path, and it leaves others alone. -/
theorem of_grant
    (guarded : Guarded path site)
    (made : site.registry.tryClaim other = (true, registry)) :
    Guarded path { site with
      registry := registry
      claims := (other, site.claims.length) :: site.claims } := by
  by_cases same : other = path
  · subst same
    exact of_free (guarded.free_of_unclaimed (ClaimRegistry.tryClaim_cases made).1)
  · refine ⟨guarded.single, ?_, ?_⟩
    · intro live alive ofPath
      rw [ClaimRegistry.isClaimed_of_tryClaim made, guarded.claimed live alive ofPath,
        Bool.or_true]
    · intro live alive ofPath
      have different : (path == other) = false := by simpa using Ne.symm same
      rw [List.lookup_cons, different]
      exact guarded.newest live alive ofPath

/-- The guard of a claim that goes well is the only one for its path. -/
theorem of_claim
    (guarded : Guarded path site)
    (made : site.registry.tryClaim other = (true, registry)) :
    Guarded path {
      registry := registry
      guards := ⟨site.claims.length, ⟨other⟩⟩ :: site.guards
      claims := (other, site.claims.length) :: site.claims } := by
  have granted := guarded.of_grant made
  by_cases same : other = path
  · subst same
    have free := guarded.free_of_unclaimed (ClaimRegistry.tryClaim_cases made).1
    refine ⟨?_, ?_, ?_⟩
    · have none : site.guardCount other = 0 := by
        apply List.countP_eq_zero.2
        intro live alive
        simpa using free live alive
      rw [guardCount] at none
      rw [guardCount, List.countP_cons, none]
      simp
    · intro live alive ofPath
      rw [ClaimRegistry.isClaimed_of_tryClaim made, beq_self_eq_true, Bool.true_or]
    · intro live alive ofPath
      obtain rfl | old := List.mem_cons.1 alive
      · exact List.lookup_cons_self
      · exact absurd ofPath (free live old)
  · refine ⟨?_, ?_, ?_⟩
    · have single := guarded.single
      rw [guardCount] at single ⊢
      rw [List.countP_cons_of_neg (by simpa using same)]
      exact single
    · intro live alive ofPath
      obtain rfl | old := List.mem_cons.1 alive
      · exact absurd ofPath same
      · exact granted.claimed live old ofPath
    · intro live alive ofPath
      obtain rfl | old := List.mem_cons.1 alive
      · exact absurd ofPath same
      · exact granted.newest live old ofPath

/-- A release of another path, or of one without a live guard, takes nothing from a guard. -/
theorem of_release
    (guarded : Guarded path site)
    (spared : other = path → ∀ live ∈ site.guards, live.guard.path ≠ path) :
    Guarded path (site.release other) := by
  by_cases same : other = path
  · exact of_free (spared same)
  · refine ⟨guarded.single, ?_, guarded.newest⟩
    intro live alive ofPath
    have different : (path != other) = true := by simpa using Ne.symm same
    rw [release, ClaimRegistry.isClaimed_release_eq, different,
      guarded.claimed live alive ofPath]
    rfl

/-- With a guard its claim goes, and the guards for other paths keep theirs. -/
theorem of_surrender
    (guarded : Guarded path site)
    (alive : live ∈ site.guards) :
    Guarded path { site with
      registry := site.registry.release live.guard.path
      guards := site.guards.erase live } := by
  have counted : site.guardCount path =
      (live :: site.guards.erase live).countP fun live => live.guard.path == path :=
    (List.perm_cons_erase alive).countP_eq _
  have single := guarded.single
  by_cases same : live.guard.path = path
  · -- The guard was the only one for the path.
    rw [counted, List.countP_cons_of_pos (by simpa using same)] at single
    have none : ((site.guards.erase live).countP fun live => live.guard.path == path) = 0 := by
      omega
    apply of_free
    intro other member
    simpa using List.countP_eq_zero.1 none other member
  · rw [counted, List.countP_cons_of_neg (by simpa using same)] at single
    refine ⟨single, ?_, ?_⟩
    · intro other member ofPath
      have different : (path != live.guard.path) = true := by simpa using Ne.symm same
      rw [ClaimRegistry.isClaimed_release_eq, different,
        guarded.claimed other (List.mem_of_mem_erase member) ofPath]
      rfl
    · exact fun other member ofPath =>
        guarded.newest other (List.mem_of_mem_erase member) ofPath

theorem step
    {action : RegistryAction}
    (guarded : Guarded path site)
    (spared : action = .release path → ∀ live ∈ site.guards, live.guard.path ≠ path)
    (stepped : site.step? action = some later) :
    Guarded path later := by
  cases action with
  | tryClaim other =>
      cases stepped
      obtain ⟨registry, claimed, made⟩ | same := site.tryClaim_cases other
      · rw [made]
        exact guarded.of_grant claimed
      · rw [same]
        exact guarded
  | claim other =>
      cases stepped
      obtain ⟨registry, claimed, made⟩ | same := site.claim_cases other
      · rw [made]
        exact guarded.of_claim claimed
      · rw [same]
        exact guarded
  | release other =>
      cases stepped
      exact guarded.of_release fun same => spared (same ▸ rfl)
  | releaseGuard number =>
      obtain ⟨live, alive, -, rfl⟩ := surrender?_cases stepped
      exact guarded.of_surrender alive
  | dropGuard number =>
      obtain ⟨live, alive, -, rfl⟩ := surrender?_cases stepped
      exact guarded.of_surrender alive

end Guarded

/-! ### Runs -/

section Runs

variable {actions : List RegistryAction}

theorem numbered_start (registry : ClaimRegistry) : Numbered (start registry) where
  distinct := List.nodup_nil
  made := fun _ alive => nomatch alive

theorem guarded_start (path : String) (registry : ClaimRegistry) :
    Guarded path (start registry) := by
  apply Guarded.of_free
  intro live alive
  cases alive

theorem numbered_of_run?
    (numbered : Numbered site)
    (ran : run? actions site = some later) :
    Numbered later := by
  induction actions generalizing site with
  | nil =>
      cases ran
      exact numbered
  | cons action actions inductionHypothesis =>
      obtain ⟨next, stepped, rest⟩ := Option.bind_eq_some_iff.1 ran
      exact inductionHypothesis (numbered.step stepped) rest

/-- In a run from here the path is never released while a guard for it is alive. -/
def Spared (path : String) (actions : List RegistryAction) (site : SharedRegistry) : Prop :=
  ∀ early late mid, actions = early ++ .release path :: late →
    run? early site = some mid → ∀ live ∈ mid.guards, live.guard.path ≠ path

theorem guarded_of_run?
    (guarded : Guarded path site)
    (spared : Spared path actions site)
    (ran : run? actions site = some later) :
    Guarded path later := by
  induction actions generalizing site with
  | nil =>
      cases ran
      exact guarded
  | cons action actions inductionHypothesis =>
      obtain ⟨next, stepped, rest⟩ := Option.bind_eq_some_iff.1 ran
      have sparedNow : action = .release path → ∀ live ∈ site.guards, live.guard.path ≠ path := by
        rintro rfl
        exact spared [] actions site rfl rfl
      refine inductionHypothesis (guarded.step sparedNow stepped) ?_ rest
      intro early late mid same before
      apply spared (action :: early) late mid
      · rw [same, List.cons_append]
      · exact Option.bind_eq_some_iff.2 ⟨next, stepped, before⟩

/-- Guards are exclusive, in every run of the steps of any users. A guard that is released or
dropped is gone and frees its own path and no other one. If a path is never released past a live
guard for it, at most one guard for it is alive at any time. The path of that guard is claimed, so
that every other claim on it is refused, and the newest claim on it is the guard's own, so that its
end takes no claim from a later holder. -/
theorem guards_exclusive
    {registry : ClaimRegistry}
    (ran : run? actions (start registry) = some site) :
    (∀ live ∈ site.guards, ∀ ends,
      ends = .releaseGuard live.number ∨ ends = .dropGuard live.number →
      ∃ later, site.step? ends = some later ∧ later.guards = site.guards.erase live ∧
        later.claims = site.claims ∧
        ∀ other, later.registry.isClaimed other =
          (other != live.guard.path && site.registry.isClaimed other)) ∧
    ∀ path, Spared path actions (start registry) →
      (site.guards.countP fun live => live.guard.path == path) ≤ 1 ∧
      ∀ live ∈ site.guards, live.guard.path = path →
        site.registry.isClaimed path = true ∧
        site.registry.tryClaim path = (false, site.registry) ∧
        site.registry.claim path = .error (.claimConflict path) ∧
        site.claims.lookup path = some live.number := by
  refine ⟨?_, ?_⟩
  · have numbered : Numbered site := numbered_of_run? (numbered_start registry) ran
    intro live alive ends either
    refine ⟨{ site with
      registry := site.registry.release live.guard.path
      guards := site.guards.erase live }, ?_, rfl, rfl, ?_⟩
    · rw [step?_surrender either]
      exact numbered.surrender?_eq alive
    · intro other
      exact ClaimRegistry.isClaimed_release_eq _ _ _
  · intro path spared
    have guarded : Guarded path site :=
      guarded_of_run? (guarded_start path registry) spared ran
    refine ⟨guarded.single, ?_⟩
    intro live alive ofPath
    have claimed := guarded.claimed live alive ofPath
    exact ⟨claimed, ClaimRegistry.tryClaim_of_claimed claimed,
      ClaimRegistry.claim_of_claimed claimed, guarded.newest live alive ofPath⟩

end Runs

/-- A path is claimed without a guard and released again; then guards are made for it and for
another path. The one for the other path is dropped, and the first one still keeps its path from
every other claim. -/
theorem guards_exclusive_two_paths :
    let actions : List RegistryAction :=
      [.tryClaim "a", .release "a", .claim "a", .claim "b", .dropGuard 2, .claim "a"]
    ∃ site, run? actions (start .empty) = some site ∧
      Spared "a" actions (start .empty) ∧
      site.guards = [⟨1, ⟨"a"⟩⟩] ∧
      site.registry.claim "a" = .error (.claimConflict "a") ∧
      site.claims.lookup "a" = some 1 ∧
      ∃ later, site.step? (.dropGuard 1) = some later ∧ later.registry.isClaimed "a" = false := by
  intro actions
  obtain ⟨site, ran, guards⟩ :
      ∃ site, run? actions (start .empty) = some site ∧ site.guards = [⟨1, ⟨"a"⟩⟩] :=
    ⟨_, rfl, rfl⟩
  have spared : Spared "a" actions (start .empty) := by
    intro early late mid same before
    -- The only bare release is the second step, and no guard was made before it.
    obtain _ | ⟨first, _ | ⟨second, early⟩⟩ := early
    · simp [actions] at same
    · simp only [actions, List.cons_append, List.nil_append, List.cons.injEq] at same
      obtain ⟨rfl, -⟩ := same
      cases before
      intro live alive
      cases alive
    · simp only [actions, List.cons_append, List.cons.injEq] at same
      have member : RegistryAction.release "a" ∈ early ++ .release "a" :: late := by simp
      rw [← same.2.2] at member
      simp at member
  have alive : (⟨1, ⟨"a"⟩⟩ : LiveGuard) ∈ site.guards := by
    rw [guards]
    exact List.mem_singleton_self _
  obtain ⟨ends, exclusive⟩ := guards_exclusive ran
  obtain ⟨-, -, conflict, newest⟩ := (exclusive "a" spared).2 _ alive rfl
  obtain ⟨later, dropped, -, -, freed⟩ := ends _ alive (.dropGuard 1) (.inr rfl)
  refine ⟨site, ran, spared, guards, conflict, newest, later, dropped, ?_⟩
  rw [freed]
  rfl

/-- A path is released past a live guard and claimed again: two guards for one path are alive, and
with the end of the first one the second one loses its claim. -/
theorem guards_share_released_path :
    ∃ released site later,
      run? [.claim "a", .release "a"] (start .empty) = some released ∧
      ⟨0, ⟨"a"⟩⟩ ∈ released.guards ∧ released.registry.isClaimed "a" = false ∧
      run? [.claim "a", .release "a", .claim "a"] (start .empty) = some site ∧
      site.guards = [⟨1, ⟨"a"⟩⟩, ⟨0, ⟨"a"⟩⟩] ∧
      ¬ (site.guards.map fun live => live.guard.path).Nodup ∧
      site.step? (.dropGuard 0) = some later ∧
      later.guards = [⟨1, ⟨"a"⟩⟩] ∧ later.registry.isClaimed "a" = false :=
  ⟨_, _, _, rfl, .head _, rfl, rfl, rfl, by decide, rfl, rfl, rfl⟩

end SharedRegistry

end DeviceLink
