import Admission.Time.Text
import Admission.Uuid

/-!
Certificates, the attempts to verify them, and the results of verification.
-/

namespace Admission

/-- The key of a certificate in the registry. -/
abbrev CertificateKey := Int64

/-- What is known of a certificate. -/
inductive CertificateStatus where
  | unknown
  | good
  | invalid
  | revoked
deriving DecidableEq, Repr

/-- An end certificate with the count of its indeterminate verifications in a row. -/
structure Certificate where
  key : CertificateKey
  thumbprint : String
  status : CertificateStatus
  validationFailures : UInt32
  revocationTime : Option Instant
deriving DecidableEq

/-- One verification asked for; it is pending until it has a status. -/
structure VerificationAttempt where
  validationId : Uuid
  certificateKey : CertificateKey
  status : Option CertificateStatus
deriving DecidableEq

/-- What a verification found. -/
inductive VerificationResult where
  | good
  | invalid
  | unknown
  | revoked (revocationTime : Instant)
deriving DecidableEq

/-- The word for a status in logs and messages. -/
def CertificateStatus.text : CertificateStatus → String
  | .unknown => "unknown"
  | .good => "good"
  | .invalid => "invalid"
  | .revoked => "revoked"

namespace VerificationAttempt

/-- Whether the attempt has no result yet. -/
def isPending (a : VerificationAttempt) : Bool := a.status.isNone

end VerificationAttempt

namespace VerificationResult

/-- The certificate status that a result speaks of. -/
def status : VerificationResult → CertificateStatus
  | .good => .good
  | .invalid => .invalid
  | .unknown => .unknown
  | .revoked _ => .revoked

/-- How messages show a result. -/
def text : VerificationResult → String
  | .revoked t => "revoked at " ++ t.offsetText
  | r => r.status.text

end VerificationResult

end Admission
