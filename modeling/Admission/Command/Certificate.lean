import Admission.Command.Attempt
import Admission.Command.Services
import Admission.Policy
import Admission.Registry.File

/-!
The command that saves the result of a certificate verification in a registry snapshot and carries
its consequences through. The file is only written when the result could be saved.
-/

namespace Admission

/-- The result as it is chosen on the command line. -/
inductive ResultChoice where
  | good
  | invalid
  | revoked
  | unknown
deriving DecidableEq, Repr

/-- The choice of that name. -/
def ResultChoice.ofText? : String → Option ResultChoice
  | "good" => some .good
  | "invalid" => some .invalid
  | "revoked" => some .revoked
  | "unknown" => some .unknown
  | _ => none

/-- What the command is given. -/
structure CertificateArguments where
  snapshot : String
  certificate : CertificateKey
  attempt : Uuid
  result : ResultChoice
  revokedAt : Option String
deriving DecidableEq

namespace Command

/-- The chosen result; a revocation has a time, and nothing else has. -/
def verificationResult : ResultChoice → Option String → Except CommandError VerificationResult
  | .revoked, some text =>
    match Instant.ofStrictText? text with
    | some t => .ok (.revoked t)
    | none => .error (.revocationTime text)
  | .revoked, none => .error .revocationTimeMissing
  | _, some _ => .error .revocationTimeUnexpected
  | .good, none => .ok .good
  | .invalid, none => .ok .invalid
  | .unknown, none => .ok .unknown

variable {m : Type → Type} [Monad m]

/-- Saves a result in a registry. -/
def saveInRegistry (h : Host m) (maximum : UInt32) (args : CertificateArguments)
    (result : VerificationResult) (registry : Registry) : Attempt m Registry := do
  let (saved, after) ← ExceptT.lift
    ((saveResult (trustServices h) maximum ⟨args.certificate, args.attempt⟩ result).run registry)
  if ← require .saveResult saved then return after
  throw (.noPendingAttempt args.certificate args.attempt)

/-- Saves a verification result. -/
def certificate (h : Host m) (config : Config) (args : CertificateArguments) :
    Attempt m Unit := do
  let policy ← require (.refusedConfig "Invalid certificate configuration") (Policy.ofConfig config)
  let result ← require id (verificationResult args.result args.revokedAt)
  let snapshot ← attempt (.loadSnapshot args.snapshot) (Snapshot.load h args.snapshot)
  let registry ←
    saveInRegistry h policy.maxValidationFailures args result (Registry.ofSnapshot snapshot)
  attempt (.saveSnapshot args.snapshot) (registry.snapshot.save h args.snapshot)
  ExceptT.lift do
    h.log (.info "Certificate result applied" [
      ("certificate_key", .text (toString args.certificate.toInt)),
      ("validation_id", .text args.attempt.text),
      ("result", .text result.text)])
    h.print ("certificate " ++ toString args.certificate.toInt ++ ": " ++ result.text ++ "\n")

end Command

end Admission
