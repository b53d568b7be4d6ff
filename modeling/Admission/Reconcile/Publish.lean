import Admission.Reconcile.Error
import Admission.Reconcile.Services

/-!
Publishing a package: its validation copy goes to the public store, then its status becomes
available, then the validation copy is removed. If the status cannot be set, the public copy is
taken back; a validation copy that cannot be removed is only logged.
-/

namespace Admission

variable {m : Type → Type} [Monad m]

/-- The fields that tell which package an entry is about, after the kind of event. -/
def packageFields (event : String) (p : Package) : List (String × LogValue) :=
  [("event_type", .text event), ("package_id", .text p.id),
    ("package_version", .text p.normalizedVersion)]

/-- Takes the public copy back after the status could not be set. -/
def rollBack (s : ReconcileServices m) (p : Package) (cause : RegistryError) : m Unit := do
  match ← s.deletePublicCopy p.id p.normalizedVersion with
  | .ok () =>
    s.log (.warn "Status update failed, public copy removed"
      (packageFields "package.publish.rollback" p ++ [("error", .text cause.message)]))
  | .error e =>
    s.log (.error "Status update failed and the public copy could not be removed"
      (packageFields "package.publish.rollback_failed" p ++
        [("error", .text cause.message), ("rollback_error", .text e.message)]))

/-- Removes the validation copy of a package that is published. -/
def cleanUp (s : ReconcileServices m) (p : Package) : m Unit := do
  match ← s.deleteValidationCopy p.id p.normalizedVersion with
  | .ok () => return ()
  | .error e =>
    s.log (.warn "Failed to delete validation copy after publishing"
      (packageFields "package.cleanup.failed" p ++ [("error", .text e.message)]))

/-- Publishes a package. -/
def publish (s : ReconcileServices m) (p : Package) : m (Except ReconcileError Unit) := do
  match ← s.downloadValidationCopy p with
  | .error e => return .error (.storage e)
  | .ok content =>
    match ← s.savePublicCopy p content with
    | .error e => return .error (.storage e)
    | .ok () =>
      match ← s.updateStatus p .available true with
      | .error e =>
        rollBack s p e
        return .error (.publish p.text e)
      | .ok () =>
        s.log (.info "Package published"
          (packageFields "package.published" p ++ [("bytes", .count content.size)]))
        cleanUp s p
        return .ok ()

end Admission
