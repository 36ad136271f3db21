import DeviceLink.Error

/-!
# Failures of the tool

A failed run has a cause and the contexts in which it arose. The cause alone
decides the exit code; the text shows the contexts first.
-/

namespace DeviceLink

/-- Why a run of the tool failed. -/
inductive FailureCause
  | usage (text : String)
  | config (text : String)
  | cancelled (text : String)
  | link (error : LinkError)
  | other (text : String)
  deriving DecidableEq, Inhabited

namespace FailureCause

/-- The texts of a cause and of the failure below it, outermost first. -/
def texts : FailureCause → List String
  | usage text => [text]
  | config text => [text]
  | cancelled text => [text]
  | link error => error.causes
  | other text => [text]

/-- The exit code of a cause. -/
def exitCode : FailureCause → UInt8
  | usage _ => 2
  | config _ => 3
  | cancelled _ => 130
  | link .deviceNotFound => 4
  | link (.claimConflict _) => 4
  | link (.config _) => 3
  | link _ => 1
  | other _ => 1

end FailureCause

/-- A failed run: the contexts, outermost first, and the cause. -/
structure Failure where
  /-- What was being done, outermost first. -/
  contexts : List String := []
  /-- What went wrong. -/
  cause : FailureCause
  deriving DecidableEq, Inhabited

namespace Failure

/-- A failure without a context. -/
def of (cause : FailureCause) : Failure := ⟨[], cause⟩

/-- The failure in a further context. -/
def within (context : String) (failure : Failure) : Failure :=
  { failure with contexts := context :: failure.contexts }

/-- All texts, outermost first. -/
def texts (failure : Failure) : List String :=
  failure.contexts ++ failure.cause.texts

/-- The text of a failure. -/
def text (failure : Failure) : String :=
  ": ".intercalate failure.texts

/-- The exit code of a failed run. -/
def exitCode (failure : Failure) : UInt8 :=
  failure.cause.exitCode

@[simp] theorem exitCode_within (context : String) (failure : Failure) :
    (failure.within context).exitCode = failure.exitCode := rfl

@[simp] theorem texts_within (context : String) (failure : Failure) :
    (failure.within context).texts = context :: failure.texts := rfl

end Failure

end DeviceLink
