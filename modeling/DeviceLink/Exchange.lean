import DeviceLink.Command
import DeviceLink.Error

/-!
# Exchanges

An exchange is a conversation over a transport. It changes the state of the
transport, and it ends with a value, with a link error, or by breaking down in
the middle; the state that it leaves is kept in all three cases.
-/

namespace DeviceLink

/-- Why an exchange ended without a value. -/
inductive Fault
  | error (cause : LinkError)
  | crash
  deriving DecidableEq, Inhabited

/-- A conversation over a transport with states in `σ`. -/
def Exchange (σ α : Type) : Type :=
  σ → Except Fault α × σ

namespace Exchange

variable {σ α β : Type}

/-- The exchange that does nothing. -/
protected def pure (value : α) : Exchange σ α :=
  fun state => (.ok value, state)

/-- One exchange after another; a fault of the first ends both. -/
protected def bind (first : Exchange σ α) (next : α → Exchange σ β) : Exchange σ β :=
  fun state =>
    match first state with
    | (.ok value, later) => next value later
    | (.error fault, later) => (.error fault, later)

instance : Monad (Exchange σ) where
  pure := Exchange.pure
  bind := Exchange.bind

/-- End with a link error. -/
def fail (cause : LinkError) : Exchange σ α :=
  fun state => (.error (.error cause), state)

/-- Break down. -/
def crash : Exchange σ α :=
  fun state => (.error .crash, state)

/-- The value if there is one; without it the exchange breaks down. -/
def ofOption : Option α → Exchange σ α
  | some value => Exchange.pure value
  | none => crash

@[simp] theorem pure_apply (value : α) (state : σ) :
    (pure value : Exchange σ α) state = (.ok value, state) := rfl

@[simp] theorem fail_apply (cause : LinkError) (state : σ) :
    (fail cause : Exchange σ α) state = (.error (.error cause), state) := rfl

@[simp] theorem crash_apply (state : σ) :
    (crash : Exchange σ α) state = (.error .crash, state) := rfl

theorem bind_apply
    (first : Exchange σ α)
    (next : α → Exchange σ β)
    (state : σ) :
    (first >>= next) state =
      match first state with
      | (.ok value, later) => next value later
      | (.error fault, later) => (.error fault, later) := rfl

theorem bind_of_ok
    {first : Exchange σ α}
    {state later : σ}
    {value : α}
    (ended : first state = (.ok value, later))
    (next : α → Exchange σ β) :
    (first >>= next) state = next value later := by
  simp [bind_apply, ended]

theorem bind_of_error
    {first : Exchange σ α}
    {state later : σ}
    {fault : Fault}
    (ended : first state = (.error fault, later))
    (next : α → Exchange σ β) :
    (first >>= next) state = (.error fault, later) := by
  simp [bind_apply, ended]

/-- Exchanges that end with a value together do so one after the other. -/
theorem exists_of_bind_ok
    {first : Exchange σ α}
    {next : α → Exchange σ β}
    {state later : σ}
    {result : β}
    (ended : (first >>= next) state = (.ok result, later)) :
    ∃ value between, first state = (.ok value, between) ∧
      next value between = (.ok result, later) := by
  cases ran : first state with
  | mk outcome between =>
      cases outcome with
      | error fault =>
          rw [bind_of_error ran] at ended
          cases ended
      | ok value =>
          rw [bind_of_ok ran] at ended
          exact ⟨value, between, rfl, ended⟩

end Exchange

end DeviceLink
