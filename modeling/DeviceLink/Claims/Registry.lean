import DeviceLink.Error

/-!
# Claims on devices

Two searches may find the same device. A registry of claimed paths lets one
connection own a path at a time: a claim succeeds only on a path that is free,
and yields a guard that stands for it.
-/

namespace DeviceLink

/-- The paths that are claimed, each once. -/
structure ClaimRegistry where
  /-- The claimed paths, newest first. -/
  paths : List String
  /-- No path is claimed twice. -/
  nodup : paths.Nodup

/-- The right to a claimed path. -/
structure ClaimGuard where
  /-- The path that was claimed. -/
  path : String
  deriving DecidableEq, Inhabited

namespace ClaimRegistry

/-- Nothing is claimed. -/
def empty : ClaimRegistry := ⟨[], .nil⟩

instance : Inhabited ClaimRegistry := ⟨empty⟩

/-- The path is claimed. -/
def isClaimed (registry : ClaimRegistry) (path : String) : Bool :=
  registry.paths.contains path

/-- Number of claimed paths. -/
def size (registry : ClaimRegistry) : Nat :=
  registry.paths.length

/-- No path is claimed. -/
def isEmpty (registry : ClaimRegistry) : Bool :=
  registry.paths.isEmpty

/-- Claim a path if it is free; the result says whether it was. -/
def tryClaim (registry : ClaimRegistry) (path : String) : Bool × ClaimRegistry :=
  if taken : path ∈ registry.paths then (false, registry)
  else (true, ⟨path :: registry.paths, List.nodup_cons.2 ⟨taken, registry.nodup⟩⟩)

/-- Give a path back, whoever holds it. -/
def release (registry : ClaimRegistry) (path : String) : ClaimRegistry :=
  ⟨registry.paths.filter (· != path), registry.nodup.filter _⟩

/-- Claim a path for a guard. -/
def claim
    (registry : ClaimRegistry)
    (path : String) : Except LinkError (ClaimGuard × ClaimRegistry) :=
  match registry.tryClaim path with
  | (true, later) => .ok (⟨path⟩, later)
  | (false, _) => .error (.claimConflict path)

/-- The registry in which exactly these paths are claimed. -/
def ofPaths (paths : List String) : ClaimRegistry :=
  paths.foldl (fun registry path => (registry.tryClaim path).2) empty

end ClaimRegistry

end DeviceLink
