import Admission.Codec.Fields
import Admission.Json.Range
import Admission.Model.Certificate

/-!
Certificates, verification attempts and verification results as JSON. A result is told by its tag;
what stands beside the tag is taken in as a whole before it is read, so it has to be a value that
can be held: no number beyond all magnitude, no text with half a character, no endless nesting.
-/

namespace Admission

open Codec

namespace CertificateStatus

def toJson : CertificateStatus → Json
  | .unknown => .str "Unknown"
  | .good => .str "Good"
  | .invalid => .str "Invalid"
  | .revoked => .str "Revoked"

def ofJson? (j : Json) : Option CertificateStatus :=
  match name? j with
  | some "Unknown" => some .unknown
  | some "Good" => some .good
  | some "Invalid" => some .invalid
  | some "Revoked" => some .revoked
  | _ => none

end CertificateStatus

namespace Certificate

def toJson (c : Certificate) : Json := .record [
  ("key", ofInt64 c.key),
  ("thumbprint", .str c.thumbprint),
  ("status", c.status.toJson),
  ("validation_failures", ofUInt32 c.validationFailures),
  ("revocation_time", ofNullable ofInstant c.revocationTime)]

def ofJson? (j : Json) : Option Certificate := do
  let [key, thumbprint, status, failures, revocationTime] ←
    record? ["key", "thumbprint", "status", "validation_failures", "revocation_time"] j | none
  return {
    key := ← required int64? key
    thumbprint := ← required text? thumbprint
    status := ← withDefault .unknown CertificateStatus.ofJson? status
    validationFailures := ← withDefault 0 uint32? failures
    revocationTime := ← withDefault none (nullable instant?) revocationTime }

end Certificate

namespace VerificationAttempt

def toJson (a : VerificationAttempt) : Json := .record [
  ("validation_id", ofUuid a.validationId),
  ("certificate_key", ofInt64 a.certificateKey),
  ("status", ofNullable CertificateStatus.toJson a.status)]

def ofJson? (j : Json) : Option VerificationAttempt := do
  let [validationId, certificateKey, status] ←
    record? ["validation_id", "certificate_key", "status"] j | none
  return {
    validationId := ← required uuid? validationId
    certificateKey := ← required int64? certificateKey
    status := ← withDefault none (nullable CertificateStatus.ofJson?) status }

end VerificationAttempt

namespace VerificationResult

/-- The deepest nesting that is held, the record itself included. -/
def maxDepth : Nat := 127

/-- Whether a scalar can be held. -/
def isHeldScalar : Json → Bool
  | .int n => Json.wholeInRange n
  | .decimal literal => Json.literalInRange literal.toList
  | .unreadable => false
  | _ => true

/-- Whether a value can be held. -/
def isHeld (j : Json) : Bool := j.depth ≤ maxDepth && j.allScalars isHeldScalar

def toJson : VerificationResult → Json
  | .revoked t => .record [("result", .str "revoked"), ("revocation_time", ofInstant t)]
  | r => .record [("result", .str r.status.text)]

/-- The tag and the rest of a record, which is again a record. -/
def tagged? : Json → Option (String × Json)
  | .obj members => do
    let tag ← (member? "result" members).bind (required text?)
    return (tag, .obj (members.filter (·.1.text != "result")))
  | .arr (.str tag :: rest) => some (tag, .arr rest)
  | _ => none

/-- Whether a record holds nothing where the order of its fields counts. -/
def hasNoFields : Json → Bool
  | .arr items => items.isEmpty
  | _ => true

def ofJson? (j : Json) : Option VerificationResult := do
  let (tag, content) ← tagged? j
  if !isHeld content then none
  match tag with
  | "good" => if hasNoFields content then some .good else none
  | "invalid" => if hasNoFields content then some .invalid else none
  | "unknown" => if hasNoFields content then some .unknown else none
  | "revoked" =>
    let [time] ← record? ["revocation_time"] content | none
    return .revoked (← required instant? time)
  | _ => none

end VerificationResult

end Admission
