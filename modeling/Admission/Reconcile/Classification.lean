import Admission.Model.Package
import Admission.Policy

/-!
What the validations of a set amount to, and what that means for a package in a given status. One
hard failure outweighs everything; a package that is available stays so.
-/

namespace Admission

/-- What the validations of a set amount to. -/
inductive Classification where
  | allSucceeded
  | hardFailed
  | pending
deriving DecidableEq, Repr

/-- What is done about a package. -/
inductive Transition where
  | promote
  | reject
  | awaitRecheck
  | unchanged
deriving DecidableEq, Repr

/-- The word for a classification in logs and messages. -/
def Classification.text : Classification → String
  | .allSucceeded => "all_succeeded"
  | .hardFailed => "hard_failed"
  | .pending => "pending"

/-- A set without validations is pending. -/
def classify (resolved : List ResolvedValidation) : Classification :=
  if resolved.any (·.isHardFailure) then .hardFailed
  else if !resolved.isEmpty && resolved.all (·.validation.status == .succeeded) then .allSucceeded
  else .pending

/-- What is done about a package in a status when its set is classified so. -/
def nextTransition : PackageStatus → Classification → Transition
  | .available, _ => .unchanged
  | _, .allSucceeded => .promote
  | .validating, .hardFailed => .reject
  | .validating, .pending => .awaitRecheck
  | .failedValidation, _ => .unchanged

/-- The shortest period among the validations not finished, or the given one if all are. -/
def recheckPeriod (resolved : List ResolvedValidation) (default : Duration) : Duration :=
  match (resolved.filter (·.isPending)).map (·.policy.recheckPeriod) with
  | [] => default
  | d :: rest => rest.foldl Duration.min d

/-- Whether every hard failure comes of nothing but a signed package. -/
def rejectedOnlyBecauseSigned (resolved : List ResolvedValidation) : Bool :=
  (resolved.filter (·.isHardFailure)).all (·.validation.failedOnlyBecauseSigned)

end Admission
