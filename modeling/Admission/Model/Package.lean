/-!
Packages and the stages of their life in the registry.
-/

namespace Admission

/-- The key of a package in the registry. -/
abbrev PackageKey := Int64

/-- A package is validated before it becomes available or fails. -/
inductive PackageStatus where
  | validating
  | available
  | failedValidation
deriving DecidableEq, Repr

/-- A package: the identifier and version as submitted, and the version in normal form. -/
structure Package where
  key : PackageKey
  id : String
  version : String
  normalizedVersion : String
  status : PackageStatus
deriving DecidableEq

/-- The word for a status in logs, labels and messages. -/
def PackageStatus.text : PackageStatus → String
  | .validating => "validating"
  | .available => "available"
  | .failedValidation => "failed_validation"

/-- How messages name a package. -/
def Package.text (p : Package) : String := p.id ++ " " ++ p.normalizedVersion

end Admission
