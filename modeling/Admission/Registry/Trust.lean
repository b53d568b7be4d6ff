import Admission.Log
import Admission.Registry.Basic
import Admission.Trust.Graph

/-!
What the registry does for the propagation of trust: it gives out the part of its trust graph that
hangs together with a certificate, and commits the changes that follow from one verification
result, all of them or none.
-/

namespace Admission

/-- The changes that follow from one verification result. -/
structure TrustChanges where
  certificate : Certificate
  attempt : VerificationAttempt
  invalidatedSignatures : List Signature
  signingStates : List SigningState
deriving DecidableEq

/-- The entry that tells the size of a trust graph loaded for a certificate. -/
def TrustGraph.loadedLog (g : TrustGraph) (certificate : CertificateKey) : LogEntry :=
  .debug "Loaded trust graph" [
    ("certificate_key", .text (toString certificate.toInt)),
    ("signatures", .count g.signatures.size),
    ("timestamps", .count g.timestamps.size)]

namespace Registry

/-- All signatures, timestamps and signing states. -/
def fullTrustGraph (r : Registry) : TrustGraph := ⟨r.signatures, r.timestamps, r.signingStates⟩

/-- The keys of the signatures tied to a certificate, by their own or by a timestamp. -/
def tiedSignatures (r : Registry) (certificate : CertificateKey) : List SignatureKey :=
  (r.signatures.values.filter (·.certificateKey == certificate)).map (·.key) ++
    (r.timestamps.values.filter (·.certificateKey == certificate)).map (·.signatureKey)

/-- The packages of the signatures that are tied to a certificate and on file. -/
def tiedPackages (r : Registry) (certificate : CertificateKey) : List PackageKey :=
  ((r.tiedSignatures certificate).filterMap r.signatures.find?).map (·.packageKey)

/-- The packages that a certificate is tied to, with all their signatures, the timestamps on these
    and the signing states. -/
def loadTrustGraph (r : Registry) (certificate : CertificateKey) : TrustGraph :=
  let packages := r.tiedPackages certificate
  let signatures := SortedMap.ofValues (·.key)
    (r.signatures.values.filter fun s => packages.contains s.packageKey)
  { signatures
    timestamps := .ofValues (·.key)
      (r.timestamps.values.filter fun t => signatures.contains t.signatureKey)
    signingStates := .ofValues (·.packageKey) (packages.filterMap r.signingStates.find?) }

/-- Why the changes do not fit the registry, if they do not. -/
def commitError? (r : Registry) (c : TrustChanges) : Option RegistryError :=
  if !r.certificates.contains c.certificate.key then
    some (.certificateNotFound c.certificate.key)
  else
    match r.attempts.find? c.attempt.fileKey with
    | none => some (.conflict (.attemptMissing c.attempt.validationId))
    | some attempt =>
      if !attempt.isPending then some (.conflict (.attemptHasResult c.attempt.validationId))
      else
        (c.invalidatedSignatures.find? fun s => !r.signatures.contains s.key).map fun s =>
          .conflict (.signatureMissing s.key)

/-- The registry with the changes in it. -/
def put (r : Registry) (c : TrustChanges) : Registry :=
  { r with
    certificates := r.certificates.insert c.certificate.key c.certificate
    attempts := r.attempts.insert c.attempt.fileKey c.attempt
    signatures := c.invalidatedSignatures.foldl (fun m s => m.insert s.key s) r.signatures
    signingStates := c.signingStates.foldl (fun m s => m.insert s.packageKey s) r.signingStates }

/-- Commits changes that fit. -/
def commit (r : Registry) (c : TrustChanges) : Except RegistryError Registry :=
  match r.commitError? c with
  | some e => .error e
  | none => .ok (r.put c)

end Registry

end Admission
