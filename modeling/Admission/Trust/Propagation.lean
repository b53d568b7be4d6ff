import Admission.Log
import Admission.Model.Message
import Admission.Registry.Trust
import Admission.Telemetry

/-!
Saving the result of a certificate verification. Reading and planning come first: the pending
attempt, the certificate, what the result makes of both ('judge'), and the cascade when trust is
lost. Then all changes are committed at once, and only then anything is reported.
-/

namespace Admission

/-- The services that saving a verification result uses. -/
structure TrustServices (m : Type → Type) where
  pendingAttempt : CertificateKey → Uuid →
    m (Except RegistryError (Option VerificationAttempt))
  certificate : CertificateKey → m (Except RegistryError (Option Certificate))
  trustGraph : CertificateKey → m (Except RegistryError TrustGraph)
  commit : TrustChanges → m (Except RegistryError Unit)
  report : Telemetry → m Unit
  log : LogEntry → m Unit

/-- Why a verification result is not saved. -/
inductive TrustError where
  | registry (source : RegistryError)
  | commit (certificate : CertificateKey) (source : RegistryError)
deriving DecidableEq

namespace TrustError

def message : TrustError → String
  | registry source => "Registry error: " ++ source.message
  | commit certificate source =>
    "Failed to commit verification result for certificate " ++ toString certificate.toInt ++ ": " ++
      source.message

/-- The message of what lies behind the error. -/
def sourceMessage : TrustError → String
  | registry source => source.message
  | commit _ source => source.message

end TrustError

/-- What a result makes of a certificate and an attempt, before anything is asked of the trust
    graph. -/
structure Judgement where
  certificate : Certificate
  attempt : VerificationAttempt
  alert : Bool
  cascade : Option CascadeRule
deriving DecidableEq

/-- One more, up to the largest number of 32 bits. -/
def saturatingSucc (n : UInt32) : UInt32 := if n.toNat + 1 < 4294967296 then n + 1 else n

/-- What a result makes of a certificate and an attempt. An indeterminate result leaves the attempt
    pending until the count reaches the maximum; then both are invalid and an alert is due. -/
def judge (maximum : UInt32) (c : Certificate) (a : VerificationAttempt) :
    VerificationResult → Judgement
  | .good =>
    ⟨{ c with status := .good, validationFailures := 0, revocationTime := none },
      { a with status := some .good }, false, none⟩
  | .invalid =>
    ⟨{ c with status := .invalid }, { a with status := some .invalid }, false, some .unconditional⟩
  | .revoked t =>
    ⟨{ c with status := .revoked, revocationTime := some t }, { a with status := some .revoked },
      false, some (.revokedAt t)⟩
  | .unknown =>
    let counted := { c with validationFailures := saturatingSucc c.validationFailures }
    if maximum ≤ counted.validationFailures then
      ⟨{ counted with status := .invalid }, { a with status := some .invalid }, true, none⟩
    else ⟨counted, a, false, none⟩

/-- The changes of a judgement with those of its cascade. -/
def Judgement.changes (j : Judgement) (c : Cascade) : TrustChanges :=
  ⟨j.certificate, j.attempt, c.invalidated, c.signingStates⟩

/-- What is ready to be committed: the changes, and whether an alert is due. -/
structure TrustPlan where
  changes : TrustChanges
  alert : Bool
deriving DecidableEq

variable {m : Type → Type} [Monad m]

/-- Completes a judgement with its cascade, for which the trust graph is loaded. -/
def completePlan (s : TrustServices m) (j : Judgement) :
    m (Except TrustError TrustPlan) := do
  match j.cascade with
  | none => return .ok ⟨j.changes ⟨[], []⟩, j.alert⟩
  | some rule =>
    match ← s.trustGraph j.certificate.key with
    | .error e => return .error (.registry e)
    | .ok graph => return .ok ⟨j.changes (graph.cascade j.certificate.key rule), j.alert⟩

/-- Logs an indeterminate result that is only counted. -/
def logIndeterminate (s : TrustServices m) (maximum : UInt32) (result : VerificationResult)
    (j : Judgement) : m Unit := do
  if result == .unknown && !j.alert then
    s.log (.debug "Certificate verification was indeterminate" [
      ("certificate_key", .text (toString j.certificate.key.toInt)),
      ("validation_failures", .count j.certificate.validationFailures.toNat),
      ("max_validation_failures", .count maximum.toNat)])

/-- The attempt that a message speaks of, if it is pending. -/
def findVerification (s : TrustServices m) (message : CertificateMessage) :
    m (Except TrustError (Option VerificationAttempt)) := do
  match ← s.pendingAttempt message.certificateKey message.validationId with
  | .error e => return .error (.registry e)
  | .ok attempt => return .ok attempt

/-- Reads what a result bears on and plans the changes; there is no plan for an attempt that is not
    pending or whose certificate is not on file. -/
def planResult (s : TrustServices m) (maximum : UInt32) (message : CertificateMessage)
    (result : VerificationResult) : m (Except TrustError (Option TrustPlan)) := do
  match ← findVerification s message with
  | .error e => return .error e
  | .ok none =>
    s.log (.warn "No pending certificate validation found" [
      ("certificate_key", .text (toString message.certificateKey.toInt)),
      ("validation_id", .text message.validationId.text)])
    return .ok none
  | .ok (some attempt) =>
    match ← s.certificate attempt.certificateKey with
    | .error e => return .error (.registry e)
    | .ok none =>
      s.log (.warn "Certificate validation refers to an unknown certificate" [
        ("certificate_key", .text (toString attempt.certificateKey.toInt)),
        ("validation_id", .text attempt.validationId.text)])
      return .ok none
    | .ok (some certificate) =>
      let judgement := judge maximum certificate attempt result
      logIndeterminate s maximum result judgement
      return (← completePlan s judgement).map some

/-- Reports each signature of a list. -/
def reportInvalidated (s : TrustServices m) : List Signature → m Unit
  | [] => return ()
  | signature :: rest => do
    s.report (.signatureInvalidated signature)
    reportInvalidated s rest

/-- Commits a plan and reports it. -/
def commitPlan (s : TrustServices m) (result : VerificationResult) (plan : TrustPlan) :
    m (Except TrustError Unit) := do
  let c := plan.changes
  match ← s.commit c with
  | .error e => return .error (.commit c.certificate.key e)
  | .ok () =>
    s.log (.info "Saved certificate verification result" [
      ("event_type", .text "certificate.result.saved"),
      ("certificate_key", .text (toString c.certificate.key.toInt)),
      ("validation_id", .text c.attempt.validationId.text),
      ("result", .text result.text),
      ("status", .text c.certificate.status.text),
      ("validation_failures", .count c.certificate.validationFailures.toNat),
      ("invalidated_signatures", .count c.invalidatedSignatures.length)])
    if plan.alert then s.report (.certificateAlert c.certificate)
    reportInvalidated s c.invalidatedSignatures
    return .ok ()

/-- Saves a result. Answers whether there was an attempt for it to be saved to. -/
def saveResult (s : TrustServices m) (maximum : UInt32) (message : CertificateMessage)
    (result : VerificationResult) : m (Except TrustError Bool) := do
  match ← planResult s maximum message result with
  | .error e => return .error e
  | .ok none => return .ok false
  | .ok (some plan) => return (← commitPlan s result plan).map fun _ => true

end Admission
