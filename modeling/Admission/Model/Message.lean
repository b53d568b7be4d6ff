import Admission.Model.Certificate
import Admission.Model.Package
import Admission.Model.Validation

/-!
The messages that ask for work: look at a validation set again, or save a certificate's result.
-/

namespace Admission

/-- Asks for a validation set to be looked at. -/
structure ValidationMessage where
  trackingId : Uuid
  packageId : String
  packageVersion : String
deriving DecidableEq

/-- Speaks of one verification attempt of a certificate. -/
structure CertificateMessage where
  certificateKey : CertificateKey
  validationId : Uuid
deriving DecidableEq

/-- The message that has a set looked at once more: the set's package identifier and the version as
    it was submitted. -/
def ValidationMessage.recheck (set : ValidationSet) (package : Package) : ValidationMessage :=
  ⟨set.trackingId, set.packageId, package.version⟩

end Admission
