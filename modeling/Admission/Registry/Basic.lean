import Admission.Registry.Error
import Admission.Registry.Snapshot
import Admission.SortedMap
import Admission.Text.Blank

/-!
The registry: packages, validation sets, certificates, verification attempts, signatures,
timestamps and signing states, each filed under its key, and the status changes that are staged
until they are committed.
-/

namespace Admission

/-- What an attempt is filed under: its certificate and its own identifier. -/
abbrev AttemptKey := CertificateKey × Uuid

instance : Ord AttemptKey := lexOrd

/-- The content of a registry. -/
structure Registry where
  packages : SortedMap PackageKey Package
  validationSets : SortedMap Uuid ValidationSet
  certificates : SortedMap CertificateKey Certificate
  attempts : SortedMap AttemptKey VerificationAttempt
  signatures : SortedMap SignatureKey Signature
  timestamps : SortedMap TimestampKey TrustedTimestamp
  signingStates : SortedMap PackageKey SigningState
  staged : List (PackageKey × PackageStatus)
deriving DecidableEq

/-- What an attempt is filed under. -/
def VerificationAttempt.fileKey (a : VerificationAttempt) : AttemptKey :=
  (a.certificateKey, a.validationId)

namespace Registry

def empty : Registry := ⟨.empty, .empty, .empty, .empty, .empty, .empty, .empty, []⟩

/-- The registry that holds the entries of a snapshot; of several under one key, the last. -/
def ofSnapshot (s : Snapshot) : Registry where
  packages := .ofValues (·.key) s.packages
  validationSets := .ofValues (·.trackingId) s.validationSets
  certificates := .ofValues (·.key) s.certificates
  attempts := .ofValues (·.fileKey) s.attempts
  signatures := .ofValues (·.key) s.signatures
  timestamps := .ofValues (·.key) s.timestamps
  signingStates := .ofValues (·.packageKey) s.signingStates
  staged := []

/-- The committed content in key order, validation sets from the oldest on. -/
def snapshot (r : Registry) : Snapshot where
  packages := r.packages.values
  validationSets := r.validationSets.values.mergeSort fun a b => !b.created.before a.created
  certificates := r.certificates.values
  attempts := r.attempts.values
  signatures := r.signatures.values
  timestamps := r.timestamps.values
  signingStates := r.signingStates.values

/-- The first package in key order with that identifier and version in any ASCII case. -/
def package? (r : Registry) (id version : String) : Option Package :=
  r.packages.values.find? fun p =>
    Text.eqIgnoreAsciiCase p.id id && Text.eqIgnoreAsciiCase p.normalizedVersion version

/-- Sets the status of the package filed under a key, if there is one. -/
def setStatus (packages : SortedMap PackageKey Package) (change : PackageKey × PackageStatus) :
    SortedMap PackageKey Package :=
  match packages.find? change.1 with
  | some p => packages.insert change.1 { p with status := change.2 }
  | none => packages

/-- Commits the staged changes in the order in which they were made. -/
def saveChanges (r : Registry) : Registry :=
  { r with packages := r.staged.foldl setStatus r.packages, staged := [] }

/-- Stages a status for a package that is filed under its key, and commits if asked to. -/
def updateStatus (r : Registry) (p : Package) (status : PackageStatus) (commit : Bool) :
    Except RegistryError Registry :=
  if r.packages.contains p.key then
    let staged := { r with staged := r.staged ++ [(p.key, status)] }
    .ok (if commit then staged.saveChanges else staged)
  else .error (.packageNotFound p.id p.normalizedVersion)

/-- The attempt under a certificate and an identifier, if it is pending. -/
def pendingAttempt? (r : Registry) (certificate : CertificateKey) (id : Uuid) :
    Option VerificationAttempt :=
  (r.attempts.find? (certificate, id)).filter (·.isPending)

end Registry

end Admission
