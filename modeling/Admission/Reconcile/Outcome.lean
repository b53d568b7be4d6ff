import Admission.Reconcile.Classification
import Admission.Reconcile.Publish

/-!
The reconciliation of a validation set with its package: the set is classified under a policy, the
package is promoted, rejected, left waiting or left alone, and what was done is reported. The
package comes back as the caller is to see it afterwards, also after an error.
-/

namespace Admission

variable {m : Type → Type} [Monad m]

/-- What a reconciliation came to. -/
structure ReconcileOutcome where
  previousStatus : PackageStatus
  status : PackageStatus
  classification : Classification
  recheckAt : Option Instant
deriving DecidableEq

/-- Whether the package has another status than before. -/
def ReconcileOutcome.changed (o : ReconcileOutcome) : Bool := o.previousStatus != o.status

/-- Tells the owner of a package; a notice that cannot be delivered is only logged. -/
def tellOwner (s : ReconcileServices m) (notice : Notice) (p : Package) : m Unit := do
  match ← s.notify notice p with
  | .ok () => return ()
  | .error e =>
    s.log (.warn "Failed to notify package owner"
      (packageFields "notification.failed" p ++ [("error", .text e.message)]))

/-- Publishes the package and tells its owner. -/
def promote (s : ReconcileServices m) (p : Package) :
    m (Package × Except ReconcileError (Option Instant)) := do
  match ← publish s p with
  | .error e => return (p, .error e)
  | .ok () =>
    let published := { p with status := .available }
    tellOwner s .published published
    return (published, .ok none)

/-- Marks the package as failed and tells its owner why. -/
def reject (s : ReconcileServices m) (resolved : List ResolvedValidation) (p : Package) :
    m (Package × Except ReconcileError (Option Instant)) := do
  match ← s.updateStatus p .failedValidation true with
  | .error e => return (p, .error (.registry e))
  | .ok () =>
    let failed := { p with status := .failedValidation }
    tellOwner s
      (if rejectedOnlyBecauseSigned resolved then .signedValidationFailed else .validationFailed)
      failed
    return (failed, .ok none)

/-- Has the set looked at again after the shortest period of its unfinished validations. -/
def awaitRecheck (s : ReconcileServices m) (policy : Policy) (set : ValidationSet)
    (resolved : List ResolvedValidation) (p : Package) :
    m (Package × Except ReconcileError (Option Instant)) := do
  match (← s.now).add? (recheckPeriod resolved policy.defaultRecheckPeriod) with
  | none => return (p, .error .beyondLastInstant)
  | some notBefore =>
    match ← s.scheduleRecheck (.recheck set p) notBefore with
    | .error e => return (p, .error (.scheduler e))
    | .ok () =>
      s.log (.info "Validation set re-check scheduled" [
        ("event_type", .text "validation.recheck.scheduled"),
        ("validation_tracking_id", .text set.trackingId.text),
        ("package_id", .text p.id),
        ("package_version", .text p.version),
        ("not_before", .text notBefore.offsetText)])
      return (p, .ok (some notBefore))

/-- Does what the classification of the set asks for. -/
def applyTransition (s : ReconcileServices m) (policy : Policy) (set : ValidationSet)
    (resolved : List ResolvedValidation) (p : Package) :
    m (Package × Except ReconcileError (Option Instant)) :=
  match nextTransition p.status (classify resolved) with
  | .promote => promote s p
  | .reject => reject s resolved p
  | .awaitRecheck => awaitRecheck s policy set resolved p
  | .unchanged => return (p, .ok none)

/-- Reports a change of status, if there is one. -/
def reportStatus (s : ReconcileServices m) (set : ValidationSet) (old : PackageStatus)
    (p : Package) : m Unit := do
  if p.status != old then
    s.log (.info "Package status changed" [
      ("event_type", .text "package.status.changed"),
      ("validation_tracking_id", .text set.trackingId.text),
      ("package_id", .text p.id),
      ("package_version", .text p.normalizedVersion),
      ("from", .text old.text),
      ("to", .text p.status.text)])
    s.report (.statusChange old p.status)

/-- Logs each entry of a list. -/
def logAll (s : ReconcileServices m) : List LogEntry → m Unit
  | [] => return ()
  | e :: rest => do
    s.log e
    logAll s rest

/-- Does for a set and its package what the set asks for, and reports how that went. -/
def settleOutcome (s : ReconcileServices m) (policy : Policy) (set : ValidationSet)
    (p : Package) : m (Package × Except ReconcileError ReconcileOutcome) := do
  let resolved := policy.resolve set
  let classification := classify resolved
  s.log (.debug "Reconciling validation set" [
    ("validation_tracking_id", .text set.trackingId.text),
    ("package_id", .text p.id),
    ("package_version", .text p.normalizedVersion),
    ("status", .text p.status.text),
    ("classification", .text classification.text),
    ("validations", .count resolved.length)])
  match ← applyTransition s policy set resolved p with
  | (after, .error .beyondLastInstant) => return (after, .error .beyondLastInstant)
  | (after, result) =>
    s.report (.totalDuration ((← s.now).since set.created) (after.status == .available))
    reportStatus s set p.status after
    return (after, result.map fun recheckAt =>
      ⟨p.status, after.status, classification, recheckAt⟩)

/-- Reconciles a set with its package, after a warning for each validator without a policy. -/
def processOutcome (s : ReconcileServices m) (policy : Policy) (set : ValidationSet)
    (p : Package) : m (Package × Except ReconcileError ReconcileOutcome) := do
  logAll s (policy.missingPolicyLogs set)
  settleOutcome s policy set p

/-- Handles a message: finds the set and its package on file and reconciles them. -/
def handleMessage (s : ReconcileServices m) (policy : Policy) (message : ValidationMessage) :
    m (Except ReconcileError ReconcileOutcome) := do
  match ← s.validationSet message.trackingId with
  | .error e => return .error (.registry e)
  | .ok none => return .error (.validationSetNotFound message.trackingId)
  | .ok (some set) =>
    match ← s.package set.packageId set.packageNormalizedVersion with
    | .error e => return .error (.registry e)
    | .ok none => return .error (.packageNotFound set.packageId set.packageNormalizedVersion)
    | .ok (some p) => return (← processOutcome s policy set p).2

end Admission
