import Admission.Log
import Admission.Model.Message
import Admission.Registry.Error
import Admission.Telemetry

/-!
What the reconciliation of validation outcomes needs from around it: the packages and sets on file,
the two package stores, a queue, the owners of packages, a clock and a log. Each service is an
action that answers a value or an error.
-/

namespace Admission

/-- What the owner of a package is told. -/
inductive Notice where
  | validationFailed
  | signedValidationFailed
  | published
deriving DecidableEq, Repr

/-- The services that a reconciliation uses. -/
structure ReconcileServices (m : Type → Type) where
  validationSet : Uuid → m (Except RegistryError (Option ValidationSet))
  package : String → String → m (Except RegistryError (Option Package))
  updateStatus : Package → PackageStatus → Bool → m (Except RegistryError Unit)
  downloadValidationCopy : Package → m (Except StorageError ByteArray)
  savePublicCopy : Package → ByteArray → m (Except StorageError Unit)
  deleteValidationCopy : String → String → m (Except StorageError Unit)
  deletePublicCopy : String → String → m (Except StorageError Unit)
  scheduleRecheck : ValidationMessage → Instant → m (Except SchedulerError Unit)
  notify : Notice → Package → m (Except NotifierError Unit)
  report : Telemetry → m Unit
  log : LogEntry → m Unit
  now : m Instant

end Admission
