import Admission.Codec.Certificate
import Admission.Codec.Package
import Admission.Codec.Signature
import Admission.Codec.Validation
import Admission.Registry.Snapshot

/-!
Registry snapshots as JSON. A section that is absent is empty.
-/

namespace Admission.Snapshot

open Codec

def toJson (s : Snapshot) : Json := .record [
  ("packages", ofList Package.toJson s.packages),
  ("validation_sets", ofList ValidationSet.toJson s.validationSets),
  ("certificates", ofList Certificate.toJson s.certificates),
  ("certificate_validations", ofList VerificationAttempt.toJson s.attempts),
  ("signatures", ofList Signature.toJson s.signatures),
  ("timestamps", ofList TrustedTimestamp.toJson s.timestamps),
  ("signing_states", ofList SigningState.toJson s.signingStates)]

def ofJson? (j : Json) : Option Snapshot := do
  let [packages, sets, certificates, attempts, signatures, timestamps, signingStates] ←
    record? ["packages", "validation_sets", "certificates", "certificate_validations",
      "signatures", "timestamps", "signing_states"] j | none
  return {
    packages := ← withDefault [] (list? Package.ofJson?) packages
    validationSets := ← withDefault [] (list? ValidationSet.ofJson?) sets
    certificates := ← withDefault [] (list? Certificate.ofJson?) certificates
    attempts := ← withDefault [] (list? VerificationAttempt.ofJson?) attempts
    signatures := ← withDefault [] (list? Signature.ofJson?) signatures
    timestamps := ← withDefault [] (list? TrustedTimestamp.ofJson?) timestamps
    signingStates := ← withDefault [] (list? SigningState.ofJson?) signingStates }

end Admission.Snapshot
