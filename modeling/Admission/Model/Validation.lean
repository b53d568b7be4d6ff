import Admission.Time.Instant
import Admission.Uuid

/-!
The validations of a package: one per validator, gathered in a validation set.
-/

namespace Admission

/-- How far a validation has come. -/
inductive ValidationStatus where
  | notStarted
  | incomplete
  | succeeded
  | failed
deriving DecidableEq, Repr

/-- What a validator found. -/
inductive ValidationIssue where
  | unknown
  | packageIsSigned
deriving DecidableEq, Repr

/-- The record of one validator's work on a package. -/
structure Validation where
  id : Uuid
  validator : String
  status : ValidationStatus
  issues : List ValidationIssue
deriving DecidableEq

/-- All validations of one package version. -/
structure ValidationSet where
  trackingId : Uuid
  packageId : String
  packageNormalizedVersion : String
  created : Instant
  validations : List Validation
deriving DecidableEq

/-- The word for a status in logs and messages. -/
def ValidationStatus.text : ValidationStatus → String
  | .notStarted => "not_started"
  | .incomplete => "incomplete"
  | .succeeded => "succeeded"
  | .failed => "failed"

/-- Whether the only thing found is that the package is signed. -/
def Validation.failedOnlyBecauseSigned (v : Validation) : Bool :=
  !v.issues.isEmpty && v.issues.all (· == .packageIsSigned)

end Admission
