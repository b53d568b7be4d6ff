import Admission.Model.Signature
import Admission.Model.Validation

/-!
The content of a registry as lists, in the form in which it is kept outside.
-/

namespace Admission

/-- Everything a registry holds. -/
structure Snapshot where
  packages : List Package
  validationSets : List ValidationSet
  certificates : List Certificate
  attempts : List VerificationAttempt
  signatures : List Signature
  timestamps : List TrustedTimestamp
  signingStates : List SigningState
deriving DecidableEq

namespace Snapshot

def empty : Snapshot := ⟨[], [], [], [], [], [], []⟩

/-- The lists of two snapshots one after the other. -/
def append (s t : Snapshot) : Snapshot where
  packages := s.packages ++ t.packages
  validationSets := s.validationSets ++ t.validationSets
  certificates := s.certificates ++ t.certificates
  attempts := s.attempts ++ t.attempts
  signatures := s.signatures ++ t.signatures
  timestamps := s.timestamps ++ t.timestamps
  signingStates := s.signingStates ++ t.signingStates

end Snapshot

end Admission
