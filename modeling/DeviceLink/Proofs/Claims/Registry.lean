import DeviceLink.Claims.Registry

/-!
# Claimed paths

A path is claimed from a successful claim to its release, and in between no
other claim on it succeeds. A claim and its release leave a registry as it
was.
-/

namespace DeviceLink

namespace ClaimRegistry

variable {registry later : ClaimRegistry} {path : String}

theorem isClaimed_iff : registry.isClaimed path = true ↔ path ∈ registry.paths := by
  rw [isClaimed, List.contains_iff_mem]

theorem not_mem_of_free (free : registry.isClaimed path = false) : path ∉ registry.paths := by
  intro member
  rw [isClaimed_iff.2 member] at free
  cases free

@[simp] theorem isClaimed_release (registry : ClaimRegistry) (path : String) :
    (registry.release path).isClaimed path = false := by
  simp [isClaimed, release]

theorem eq_of_paths (same : registry.paths = later.paths) : registry = later := by
  cases registry
  cases later
  cases same
  rfl

theorem paths_release (registry : ClaimRegistry) (path : String) :
    (registry.release path).paths = registry.paths.filter (· != path) := rfl

/-- A release frees its path and no other one. -/
theorem isClaimed_release_eq (registry : ClaimRegistry) (path other : String) :
    (registry.release path).isClaimed other = (other != path && registry.isClaimed other) := by
  by_cases same : other = path
  · simp [same]
  · simp [isClaimed, release, same]

/-- An attempt on a claimed path changes nothing. -/
theorem tryClaim_of_claimed (claimed : registry.isClaimed path = true) :
    registry.tryClaim path = (false, registry) := by
  rw [tryClaim, dif_pos (isClaimed_iff.1 claimed)]

/-- An attempt that succeeds finds the path free and adds it. -/
theorem tryClaim_cases (made : registry.tryClaim path = (true, later)) :
    registry.isClaimed path = false ∧ later.paths = path :: registry.paths := by
  cases taken : registry.isClaimed path with
  | true =>
      rw [tryClaim_of_claimed taken] at made
      cases made
  | false =>
      rw [tryClaim, dif_neg (not_mem_of_free taken)] at made
      cases made
      exact ⟨rfl, rfl⟩

/-- A claim that succeeds is an attempt that succeeds, with a guard for the path. -/
theorem claim_cases
    {guard : ClaimGuard}
    (made : registry.claim path = .ok (guard, later)) :
    guard = ⟨path⟩ ∧ registry.tryClaim path = (true, later) := by
  unfold claim at made
  split at made
  next next claimed =>
    cases made
    exact ⟨rfl, claimed⟩
  next => cases made

/-- A claim adds its path and no other one. -/
theorem isClaimed_of_tryClaim
    (made : registry.tryClaim path = (true, later))
    (other : String) :
    later.isClaimed other = (other == path || registry.isClaimed other) := by
  rw [isClaimed, (tryClaim_cases made).2, List.contains_cons, isClaimed]

/-- Releasing a path that was just claimed takes the claim back. -/
theorem release_of_tryClaim (made : registry.tryClaim path = (true, later)) :
    later.release path = registry := by
  obtain ⟨free, paths⟩ := tryClaim_cases made
  apply eq_of_paths
  have others : registry.paths.filter (· != path) = registry.paths := by
    apply List.filter_eq_self.2
    intro other member
    have different : other ≠ path := fun same => not_mem_of_free free (same ▸ member)
    simpa using different
  calc
    (later.release path).paths = (path :: registry.paths).filter (· != path) := by
      rw [paths_release, paths]
    _ = registry.paths := by
      rw [List.filter_cons_of_neg (by simp), others]

/-- No path is claimed twice. -/
theorem claim_of_claimed (claimed : registry.isClaimed path = true) :
    registry.claim path = .error (.claimConflict path) := by
  rw [claim, tryClaim_of_claimed claimed]

/-- A free path can be claimed. -/
theorem claim_of_free (free : registry.isClaimed path = false) :
    ∃ later, registry.claim path = .ok (⟨path⟩, later) ∧ later.isClaimed path = true := by
  have absent := not_mem_of_free free
  refine ⟨(registry.tryClaim path).2, ?_, ?_⟩
  · simp only [claim, tryClaim, dif_neg absent]
  · rw [isClaimed_iff]
    simp only [tryClaim, dif_neg absent]
    exact List.mem_cons_self

end ClaimRegistry

end DeviceLink
