import Admission.Codec.Message
import Admission.Files.PackageStore
import Admission.Json.Printer
import Admission.Reconcile.Services
import Admission.Trust.Propagation

/-!
The services that a command uses: a registry that the command holds, package files in two
directories, and re-checks and notices that are logged instead of being delivered.
-/

namespace Admission

/-- The entry for a message that is to be sent again. -/
def ValidationMessage.recheckLog (message : ValidationMessage) (notBefore : Instant) : LogEntry :=
  .info "Re-check message ready to enqueue" [
    ("not_before", .text notBefore.offsetText),
    ("payload", .text message.toJson.compact)]

/-- The entry for what the owner of a package is told. -/
def Notice.log (notice : Notice) (p : Package) : LogEntry :=
  let message := match notice with
    | .validationFailed => "Notify owner: validation failed"
    | .signedValidationFailed => "Notify owner: signed packages are not accepted"
    | .published => "Notify owner: package published"
  .info message [("package", .text p.text)]

namespace Command

variable {m : Type → Type} [Monad m]

/-- What acts on the machine and on the registry of a command. -/
abbrev WithRegistry (m : Type → Type) := StateT Registry m

/-- Looks something up in the registry. -/
def ask {α : Type} (answer : Registry → α) : WithRegistry m (Except RegistryError α) := fun r =>
  return (.ok (answer r), r)

/-- Changes the registry, unless the change is refused. -/
def change (act : Registry → Except RegistryError Registry) :
    WithRegistry m (Except RegistryError Unit) := fun r =>
  match act r with
  | .error e => return (.error e, r)
  | .ok changed => return (.ok (), changed)

/-- Acts on the machine only. -/
def onHost {α : Type} (act : m α) : WithRegistry m α := fun r => return (← act, r)

/-- Logs an entry and succeeds. -/
def logged {ε : Type} (h : Host m) (e : LogEntry) : WithRegistry m (Except ε Unit) := fun r => do
  h.log e
  return (.ok (), r)

/-- The trust graph of a certificate; its size is logged. -/
def trustGraph (h : Host m) (key : CertificateKey) :
    WithRegistry m (Except RegistryError TrustGraph) := fun r => do
  let graph := r.loadTrustGraph key
  h.log (graph.loadedLog key)
  return (.ok graph, r)

/-- The services for the reconciliation of validation outcomes. -/
def reconcileServices (h : Host m) (store : PackageStore) :
    ReconcileServices (WithRegistry m) where
  validationSet id := ask (·.validationSets.find? id)
  package id version := ask (·.package? id version)
  updateStatus p status commit := change (·.updateStatus p status commit)
  downloadValidationCopy p := onHost (store.downloadValidationCopy h p.id p.normalizedVersion)
  savePublicCopy p content := onHost (store.savePublicCopy h p.id p.normalizedVersion content)
  deleteValidationCopy id version := onHost (store.deleteValidationCopy h id version)
  deletePublicCopy id version := onHost (store.deletePublicCopy h id version)
  scheduleRecheck message notBefore := logged h (message.recheckLog notBefore)
  notify notice p := logged h (notice.log p)
  report t := onHost (h.report t)
  log e := onHost (h.log e)
  now := onHost h.now

/-- The services for saving verification results. -/
def trustServices (h : Host m) : TrustServices (WithRegistry m) where
  pendingAttempt key id := ask (·.pendingAttempt? key id)
  certificate key := ask (·.certificates.find? key)
  trustGraph := trustGraph h
  commit c := change (·.commit c)
  report t := onHost (h.report t)
  log e := onHost (h.log e)

end Command

end Admission
