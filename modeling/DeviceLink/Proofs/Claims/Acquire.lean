import DeviceLink.Claims.Acquire
import DeviceLink.Proofs.Claims.Registry

/-!
# The search for a free device

A search calls its opener on the free candidates in order, and on each of them
while its path is claimed, until one opens. It gives every claim back but the
one of the device that it opens: a search that fails leaves the registry as it
was, and one that succeeds adds the path of its device, which was free.

The calls of an opener are seen through a log that it keeps next to its state.
-/

namespace DeviceLink

/-- A call of an opener: the registry that it saw, the candidate, and how it ended. -/
structure OpenAttempt (δ : Type) where
  /-- The registry during the call. -/
  registry : ClaimRegistry
  /-- The candidate that was to be opened. -/
  candidate : DeviceDescriptor
  /-- What the call has yielded. -/
  result : Except LinkError δ

namespace OpenAttempt

variable {δ : Type}

/-- The error of a call that failed. -/
def error? (attempt : OpenAttempt δ) : Option LinkError :=
  match attempt.result with
  | .ok _ => none
  | .error cause => some cause

/-- No call opened its candidate. -/
def AllFailed (attempts : List (OpenAttempt δ)) : Prop :=
  ∀ attempt ∈ attempts, ∃ cause, attempt.result = .error cause

/-- The last error is the one of the last call, if that one failed. -/
theorem getLast?_errors
    {attempts : List (OpenAttempt δ)}
    {attempt : OpenAttempt δ}
    {cause : LinkError}
    (last : attempts.getLast? = some attempt)
    (failed : attempt.result = .error cause) :
    (attempts.filterMap error?).getLast? = some cause := by
  obtain ⟨earlier, rfl⟩ := List.getLast?_eq_some_iff.1 last
  simp [error?, failed]

end OpenAttempt

/-- The opener that logs its calls next to its state, the newest one last. -/
def Opener.logged {ω δ : Type} (opener : Opener ω δ) : Opener (ω × List (OpenAttempt δ)) δ :=
  fun registry candidate noted =>
    let (result, later) := opener registry candidate noted.1
    (result, later, noted.2 ++ [⟨registry, candidate, result⟩])

namespace Rejections

variable {rejections : Rejections} {errors : List LinkError} {taken : List DeviceDescriptor}

/-- The rejections after more of them: candidates that were taken, and open errors. -/
def after
    (rejections : Rejections)
    (errors : List LinkError)
    (taken : List DeviceDescriptor) : Rejections where
  conflict := (taken.getLast?.map fun candidate => .claimConflict candidate.path)
    <|> rejections.conflict
  openError := errors.getLast? <|> rejections.openError

@[simp] theorem after_nil (rejections : Rejections) : rejections.after [] [] = rejections := by
  simp [after]

/-- A search ends with the last open error, or else with the last conflict. -/
theorem error_after (errors : List LinkError) (taken : List DeviceDescriptor) :
    (Rejections.after {} errors taken).error =
      (errors.getLast? <|> taken.getLast?.map fun candidate =>
        LinkError.claimConflict candidate.path).getD .deviceNotFound := by
  simp [error, after]

theorem after_taken (candidate : DeviceDescriptor) :
    rejections.after errors (candidate :: taken) =
      Rejections.after
        { rejections with conflict := some (.claimConflict candidate.path) } errors taken := by
  cases last : taken.getLast? with
  | none => simp [after, List.getLast?_cons, last]
  | some other => simp [after, List.getLast?_cons, last]

theorem after_error (cause : LinkError) :
    rejections.after (cause :: errors) taken =
      Rejections.after { rejections with openError := some cause } errors taken := by
  cases last : errors.getLast? with
  | none => simp [after, List.getLast?_cons, last]
  | some other => simp [after, List.getLast?_cons, last]

end Rejections

namespace ClaimRegistry

open OpenAttempt

variable {ω δ : Type} {opener : Opener ω δ} {rejections : Rejections}
  {candidates : List DeviceDescriptor} {candidate : DeviceDescriptor}
  {registry claimed later : ClaimRegistry} {state final : ω} {attempts : List (OpenAttempt δ)}
  {outcome : Except LinkError (Acquired δ)} {cause : LinkError}

/-- The candidates whose paths nobody claims. -/
def freeAmong
    (registry : ClaimRegistry)
    (candidates : List DeviceDescriptor) : List DeviceDescriptor :=
  candidates.filter fun candidate => !registry.isClaimed candidate.path

/-- The candidates whose paths are claimed. -/
def takenAmong
    (registry : ClaimRegistry)
    (candidates : List DeviceDescriptor) : List DeviceDescriptor :=
  candidates.filter fun candidate => registry.isClaimed candidate.path

theorem takenAmong_of_none_free (none : registry.freeAmong candidates = []) :
    registry.takenAmong candidates = candidates := by
  apply List.filter_eq_self.2
  intro candidate member
  simpa using List.filter_eq_nil_iff.1 none candidate member

/-- What a search comes to with these calls of its opener: the last one opens a candidate, or all
free candidates were tried in vain. -/
inductive SearchEnd
    (opener : Opener ω δ)
    (registry : ClaimRegistry)
    (rejections : Rejections)
    (candidates : List DeviceDescriptor) :
    List (OpenAttempt δ) → Except LinkError (Acquired δ) → ClaimRegistry → ω → Prop
  | opened
      {before final : ω}
      {handle : δ}
      {later : ClaimRegistry}
      (failed : List (OpenAttempt δ))
      (candidate : DeviceDescriptor)
      (allFailed : AllFailed failed)
      (granted : registry.tryClaim candidate.path = (true, later))
      (opens : opener later candidate before = (.ok handle, final))
      (inOrder : failed.map OpenAttempt.candidate ++ [candidate] <+:
        registry.freeAmong candidates) :
      SearchEnd opener registry rejections candidates
        (failed ++ [⟨later, candidate, .ok handle⟩])
        (.ok ⟨handle, candidate, ⟨candidate.path⟩⟩) later final
  | exhausted
      {final : ω}
      (attempts : List (OpenAttempt δ))
      (allFailed : AllFailed attempts)
      (inOrder : attempts.map OpenAttempt.candidate = registry.freeAmong candidates) :
      SearchEnd opener registry rejections candidates attempts
        (.error (rejections.after (attempts.filterMap error?)
          (registry.takenAmong candidates)).error) registry final

namespace SearchEnd

/-- A candidate that is claimed is passed over, and its conflict noted. -/
theorem pass
    (taken : registry.isClaimed candidate.path = true)
    (ends : SearchEnd opener registry
      { rejections with conflict := some (.claimConflict candidate.path) } candidates
      attempts outcome later final) :
    SearchEnd opener registry rejections (candidate :: candidates)
      attempts outcome later final := by
  have free : registry.freeAmong (candidate :: candidates) = registry.freeAmong candidates := by
    simp [freeAmong, taken]
  cases ends with
  | opened failed other allFailed granted opens inOrder =>
      apply SearchEnd.opened failed other allFailed granted opens
      rw [free]
      exact inOrder
  | exhausted attempts allFailed inOrder =>
      have conflicts : registry.takenAmong (candidate :: candidates) =
          candidate :: registry.takenAmong candidates := by
        simp [takenAmong, taken]
      rw [← Rejections.after_taken, ← conflicts]
      apply SearchEnd.exhausted attempts allFailed
      rw [free]
      exact inOrder

/-- A free candidate that does not open is one more call in vain. -/
theorem fail
    (free : registry.isClaimed candidate.path = false)
    (ends : SearchEnd opener registry { rejections with openError := some cause } candidates
      attempts outcome later final) :
    SearchEnd opener registry rejections (candidate :: candidates)
      (⟨claimed, candidate, .error cause⟩ :: attempts) outcome later final := by
  have first : registry.freeAmong (candidate :: candidates) =
      candidate :: registry.freeAmong candidates := by
    simp [freeAmong, free]
  have failedAll : ∀ {attempts : List (OpenAttempt δ)}, AllFailed attempts →
      AllFailed (⟨claimed, candidate, .error cause⟩ :: attempts) := by
    intro attempts others
    exact List.forall_mem_cons.2 ⟨⟨cause, rfl⟩, others⟩
  cases ends with
  | opened failed other allFailed granted opens inOrder =>
      apply SearchEnd.opened (⟨claimed, candidate, .error cause⟩ :: failed) other
        (failedAll allFailed) granted opens
      rw [first]
      exact (List.prefix_cons_inj candidate).2 inOrder
  | exhausted attempts allFailed inOrder =>
      have conflicts : registry.takenAmong (candidate :: candidates) =
          registry.takenAmong candidates := by
        simp [takenAmong, free]
      have errors : (⟨claimed, candidate, .error cause⟩ :: attempts).filterMap error? =
          cause :: attempts.filterMap error? := rfl
      rw [← Rejections.after_error, ← conflicts, ← errors]
      apply SearchEnd.exhausted _ (failedAll allFailed)
      rw [first, List.map_cons, inOrder]

end SearchEnd

/-- A search goes the same way with a log. Each call that it adds to the log saw the registry with
the path of its candidate claimed, which was free before. -/
theorem acquireFrom_logged
    (opener : Opener ω δ)
    (rejections : Rejections)
    (candidates : List DeviceDescriptor)
    (registry : ClaimRegistry)
    (state : ω)
    (log : List (OpenAttempt δ)) :
    ∃ outcome later final attempts,
      acquireFrom opener rejections candidates registry state = (outcome, later, final) ∧
      acquireFrom opener.logged rejections candidates registry (state, log) =
        (outcome, later, final, log ++ attempts) ∧
      (∀ attempt ∈ attempts,
        registry.tryClaim attempt.candidate.path = (true, attempt.registry)) ∧
      SearchEnd opener registry rejections candidates attempts outcome later final := by
  induction candidates generalizing rejections state log with
  | nil =>
      refine ⟨.error rejections.error, registry, state, [], rfl, ?_, ?_, ?_⟩
      · rw [acquireFrom, List.append_nil]
      · simp
      · have none : SearchEnd opener registry rejections [] [] _ registry state :=
          SearchEnd.exhausted [] (by simp [AllFailed]) rfl
        simpa [takenAmong] using none
  | cons candidate others inductionHypothesis =>
      cases taken : registry.isClaimed candidate.path with
      | true =>
          obtain ⟨outcome, later, final, attempts, plain, logged, seen, ends⟩ :=
            inductionHypothesis
              { rejections with conflict := some (.claimConflict candidate.path) } state log
          refine ⟨outcome, later, final, attempts, ?_, ?_, seen, ends.pass taken⟩
          · rw [acquireFrom, claim_of_claimed taken]
            exact plain
          · rw [acquireFrom, claim_of_claimed taken]
            exact logged
      | false =>
          obtain ⟨claimed, made, -⟩ := claim_of_free taken
          have granted := (claim_cases made).2
          cases opened : opener claimed candidate state with
          | mk result next =>
              have noted : opener.logged claimed candidate (state, log) =
                  (result, next, log ++ [⟨claimed, candidate, result⟩]) := by
                rw [Opener.logged, opened]
              cases result with
              | ok handle =>
                  refine ⟨.ok ⟨handle, candidate, ⟨candidate.path⟩⟩, claimed, next,
                    [⟨claimed, candidate, .ok handle⟩], ?_, ?_, ?_, ?_⟩
                  · simp only [acquireFrom, made, opened]
                  · simp only [acquireFrom, made, noted]
                  · simpa using granted
                  · apply SearchEnd.opened [] candidate (by simp [AllFailed]) granted opened
                    simp [freeAmong, taken]
              | error cause =>
                  obtain ⟨outcome, later, final, attempts, plain, logged, seen, ends⟩ :=
                    inductionHypothesis { rejections with openError := some cause } next
                      (log ++ [⟨claimed, candidate, .error cause⟩])
                  refine ⟨outcome, later, final, ⟨claimed, candidate, .error cause⟩ :: attempts,
                    ?_, ?_, ?_, ends.fail taken⟩
                  · simp only [acquireFrom, made, opened, release_of_tryClaim granted]
                    exact plain
                  · simp only [acquireFrom, made, noted, release_of_tryClaim granted]
                    rw [logged, List.append_assoc]
                    rfl
                  · exact List.forall_mem_cons.2 ⟨granted, seen⟩

/-- A search ends without a claim, or with the claim on the candidate that it opened. -/
theorem acquireFrom_cases
    (searched : acquireFrom opener rejections candidates registry state = (outcome, later, final)) :
    (∃ cause, outcome = .error cause ∧ later = registry) ∨
    ∃ acquired before, outcome = .ok acquired ∧ acquired.descriptor ∈ candidates ∧
      acquired.guard = ⟨acquired.descriptor.path⟩ ∧
      registry.tryClaim acquired.descriptor.path = (true, later) ∧
      opener later acquired.descriptor before = (.ok acquired.handle, final) := by
  obtain ⟨outcome, later, final, attempts, plain, -, -, ends⟩ :=
    acquireFrom_logged opener rejections candidates registry state []
  rw [plain] at searched
  cases searched
  cases ends with
  | exhausted attempts allFailed inOrder => exact .inl ⟨_, rfl, rfl⟩
  | @opened before _ _ _ failed candidate allFailed granted opens inOrder =>
      have free : candidate ∈ registry.freeAmong candidates :=
        inOrder.subset (by simp)
      exact .inr ⟨_, before, rfl, (List.mem_filter.1 free).1, rfl, granted, opens⟩

/-- The path of a device that was acquired is claimed. -/
theorem claimed_of_acquireFrom
    {acquired : Acquired δ}
    (found :
      acquireFrom opener rejections candidates registry state = (.ok acquired, later, final)) :
    later.isClaimed acquired.guard.path = true := by
  obtain ⟨cause, failed, -⟩ | ⟨other, before, same, -, guard, granted, -⟩ :=
    acquireFrom_cases found
  · cases failed
  · cases same
    rw [guard, isClaimed_of_tryClaim granted, beq_self_eq_true, Bool.true_or]

/-- The first free candidate that opens is acquired, and otherwise nothing is left behind. The opener
is called on the free candidates in order, on each one while its path is claimed on top of what was
claimed before, and only its last call can open a candidate. A search that succeeds ends with the
device of that call and a guard for its path, which is all that is claimed in addition. A search
that fails has tried all free candidates and leaves the registry as it was; it ends with the last
open error, or else with a conflict on the last candidate, or else with no device found. -/
theorem acquire_first_that_opens
    (opener : Opener ω δ)
    (candidates : List DeviceDescriptor)
    (registry : ClaimRegistry)
    (state : ω) :
    ∃ outcome later final attempts,
      acquire opener candidates registry state = (outcome, later, final) ∧
      acquire opener.logged candidates registry (state, []) =
        (outcome, later, final, attempts) ∧
      attempts.map OpenAttempt.candidate <+:
        (candidates.filter fun candidate => !registry.isClaimed candidate.path) ∧
      (∀ attempt ∈ attempts, registry.isClaimed attempt.candidate.path = false ∧
        ∀ path, attempt.registry.isClaimed path =
          (path == attempt.candidate.path || registry.isClaimed path)) ∧
      (∀ attempt ∈ attempts.dropLast, ∃ cause, attempt.result = .error cause) ∧
      ((∃ acquired, outcome = .ok acquired) ↔
        ∃ attempt ∈ attempts, ∃ handle, attempt.result = .ok handle) ∧
      (∀ acquired, outcome = .ok acquired →
        attempts.getLast? = some ⟨later, acquired.descriptor, .ok acquired.handle⟩ ∧
        acquired.guard = ⟨acquired.descriptor.path⟩ ∧
        ∀ path, later.isClaimed path =
          (path == acquired.descriptor.path || registry.isClaimed path)) ∧
      ∀ cause, outcome = .error cause →
        later = registry ∧
        attempts.map OpenAttempt.candidate =
          (candidates.filter fun candidate => !registry.isClaimed candidate.path) ∧
        (∀ attempt, attempts.getLast? = some attempt → attempt.result = .error cause) ∧
        (attempts = [] → ∀ last, candidates.getLast? = some last →
          cause = .claimConflict last.path) ∧
        (candidates = [] → cause = .deviceNotFound) := by
  obtain ⟨outcome, later, final, attempts, plain, logged, seen, ends⟩ :=
    acquireFrom_logged opener {} candidates registry state []
  refine ⟨outcome, later, final, attempts, plain, logged, ?_⟩
  have claimed : ∀ attempt ∈ attempts, registry.isClaimed attempt.candidate.path = false ∧
      ∀ path, attempt.registry.isClaimed path =
        (path == attempt.candidate.path || registry.isClaimed path) := by
    intro attempt member
    have granted := seen attempt member
    exact ⟨(tryClaim_cases granted).1, isClaimed_of_tryClaim granted⟩
  cases ends with
  | opened failed candidate allFailed granted opens inOrder =>
      refine ⟨?_, claimed, ?_, ?_, ?_, ?_⟩
      · rw [List.map_append]
        exact inOrder
      · rw [List.dropLast_concat]
        exact allFailed
      · simp
      · rintro acquired same
        cases same
        exact ⟨List.getLast?_concat, rfl, isClaimed_of_tryClaim granted⟩
      · intro cause failed
        cases failed
  | exhausted attempts allFailed inOrder =>
      refine ⟨?_, claimed, ?_, ?_, ?_, ?_⟩
      · rw [inOrder]
        exact List.prefix_rfl
      · exact fun attempt member => allFailed attempt (List.dropLast_subset _ member)
      · constructor
        · rintro ⟨acquired, same⟩
          cases same
        · rintro ⟨attempt, member, handle, opened⟩
          obtain ⟨cause, failed⟩ := allFailed attempt member
          rw [failed] at opened
          cases opened
      · intro acquired same
        cases same
      · intro cause same
        cases same
        rw [Rejections.error_after]
        refine ⟨rfl, inOrder, ?_, ?_, ?_⟩
        · intro attempt last
          obtain ⟨cause, failed⟩ := allFailed attempt (List.mem_of_getLast? last)
          rw [getLast?_errors last failed, failed]
          rfl
        · rintro rfl last atEnd
          rw [takenAmong_of_none_free inOrder.symm, atEnd]
          rfl
        · rintro rfl
          have none : attempts = [] := List.map_eq_nil_iff.1 inOrder
          rw [none]
          rfl

end ClaimRegistry

end DeviceLink
