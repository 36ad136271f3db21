import DeviceLink.Claims.Registry
import DeviceLink.Device.Descriptor

/-!
# Acquiring a free device

Candidates are tried in order. A claimed one is passed over; a free one is
claimed while it is opened, and given back when that fails. The first that
opens is the one acquired.
-/

namespace DeviceLink

/-- A device that was claimed and opened. -/
structure Acquired (δ : Type) where
  /-- What opening the device has yielded. -/
  handle : δ
  /-- The candidate that was opened. -/
  descriptor : DeviceDescriptor
  /-- The right to the path of the device. -/
  guard : ClaimGuard

/-- What is left of the candidates that did not do: the last conflict and the last open error. -/
structure Rejections where
  /-- The error of the last candidate that was claimed already, if there was one. -/
  conflict : Option LinkError := none
  /-- The error of the last candidate that did not open, if there was one. -/
  openError : Option LinkError := none
  deriving DecidableEq, Inhabited

/-- The error of a search in which no candidate did. -/
def Rejections.error (rejections : Rejections) : LinkError :=
  (rejections.openError <|> rejections.conflict).getD .deviceNotFound

/-- An opener may change a state, and sees the registry while the path is claimed. -/
abbrev Opener (ω δ : Type) : Type :=
  ClaimRegistry → DeviceDescriptor → ω → Except LinkError δ × ω

namespace ClaimRegistry

variable {ω δ : Type}

/-- Try the candidates in order, after `rejections` among the earlier ones. -/
def acquireFrom
    (opener : Opener ω δ)
    (rejections : Rejections) :
    List DeviceDescriptor → ClaimRegistry → ω → Except LinkError (Acquired δ) × ClaimRegistry × ω
  | [], registry, state => (.error rejections.error, registry, state)
  | candidate :: others, registry, state =>
      match registry.claim candidate.path with
      | .error cause =>
          acquireFrom opener { rejections with conflict := some cause } others registry state
      | .ok (guard, claimed) =>
          match opener claimed candidate state with
          | (.ok handle, state) => (.ok ⟨handle, candidate, guard⟩, claimed, state)
          | (.error cause, state) =>
              acquireFrom opener { rejections with openError := some cause } others
                (claimed.release guard.path) state

/-- Claim and open the first candidate that is free and opens. -/
def acquire
    (opener : Opener ω δ)
    (candidates : List DeviceDescriptor)
    (registry : ClaimRegistry)
    (state : ω) : Except LinkError (Acquired δ) × ClaimRegistry × ω :=
  acquireFrom opener {} candidates registry state

end ClaimRegistry

end DeviceLink
