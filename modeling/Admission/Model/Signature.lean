import Admission.Model.Certificate
import Admission.Model.Package

/-!
Package signatures, the timestamps on them, and what they say of a package together.
-/

namespace Admission

/-- The key of a signature in the registry. -/
abbrev SignatureKey := Int64

/-- The key of a timestamp in the registry. -/
abbrev TimestampKey := Int64

/-- Whether a signature can be trusted. -/
inductive SignatureStatus where
  | valid
  | invalid
deriving DecidableEq, Repr

/-- A signature on a package made with a certificate. -/
structure Signature where
  key : SignatureKey
  packageKey : PackageKey
  certificateKey : CertificateKey
  status : SignatureStatus
deriving DecidableEq

/-- A timestamp on a signature, issued with a certificate of its own. -/
structure TrustedTimestamp where
  key : TimestampKey
  signatureKey : SignatureKey
  certificateKey : CertificateKey
  value : Instant
deriving DecidableEq

/-- What the signatures of a package say together. -/
inductive SigningStatus where
  | unsigned
  | valid
  | invalid
deriving DecidableEq, Repr

/-- The signing status recorded for a package. -/
structure SigningState where
  packageKey : PackageKey
  signingStatus : SigningStatus
deriving DecidableEq

/-- One invalid signature makes the package invalid; a package without signatures is unsigned. -/
def SigningStatus.ofSignatures (statuses : List SignatureStatus) : SigningStatus :=
  if statuses.any (· == .invalid) then .invalid
  else if statuses.isEmpty then .unsigned
  else .valid

end Admission
