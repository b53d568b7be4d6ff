import Admission.Command.Attempt
import Admission.Command.Services
import Admission.Reconcile.Outcome
import Admission.Registry.File

/-!
The command that reconciles one validation set of a registry snapshot with its package. What was
committed before a failure is still written back.
-/

namespace Admission

/-- What the command is given. -/
structure ReconcileArguments where
  snapshot : String
  trackingId : Uuid
  store : PackageStore
deriving DecidableEq

/-- The outcome of a reconciliation on one line. -/
def ReconcileOutcome.line (o : ReconcileOutcome) : String :=
  o.previousStatus.text ++ " -> " ++ o.status.text ++ " (" ++ o.classification.text ++ ")" ++
    o.recheckAt.elim "" (", re-check at " ++ ·.offsetText) ++ "\n"

namespace Command

variable {m : Type → Type} [Monad m]

/-- Reconciles a set and answers what came of it with the registry afterwards. -/
def reconcileSet (h : Host m) (policy : Policy) (store : PackageStore) (set : ValidationSet)
    (registry : Registry) : m (Except ReconcileError ReconcileOutcome × Registry) :=
  (handleMessage (reconcileServices h store) policy
    ⟨set.trackingId, set.packageId, set.packageNormalizedVersion⟩).run registry

/-- Reconciles a validation set with its package. -/
def reconcile (h : Host m) (config : Config) (args : ReconcileArguments) :
    Attempt m ReconcileOutcome := do
  let policy ← require (.refusedConfig "Invalid validator configuration") (Policy.ofConfig config)
  let snapshot ← attempt (.loadSnapshot args.snapshot) (Snapshot.load h args.snapshot)
  let registry := Registry.ofSnapshot snapshot
  let some set := registry.validationSets.find? args.trackingId
    | throw (.unknownSet args.trackingId)
  let (result, after) ← ExceptT.lift (reconcileSet h policy args.store set registry)
  attempt (.saveSnapshot args.snapshot) (after.snapshot.save h args.snapshot)
  let outcome ← require .reconciliation result
  ExceptT.lift do
    h.log (.info "Reconciliation complete" [
      ("validation_tracking_id", .text args.trackingId.text),
      ("previous_status", .text outcome.previousStatus.text),
      ("status", .text outcome.status.text),
      ("classification", .text outcome.classification.text)])
    h.print outcome.line
  return outcome

end Command

end Admission
