import Admission.Proofs.Session.Services

/-!
What an action does not look at. A session can be recast: some of it is exchanged for something
else, in a way that calls, log entries and failures do not take part in (`Recasting`). An action
ignores that if on the recast session it answers the same and leaves the recast of what it would
leave (`Ignores`). The services do so one by one, each by the part of the session that it works on;
what is made of them does so by composition, so that reconciling ignores whatever spares packages,
sets and files (`ignores_handle`), and saving a result whatever spares certificates and signatures
(`ignores_save`).
-/

namespace Admission

namespace Session

variable {α β ε : Type} {φ : Session → Session} {ρ : Registry → Registry}

/-- The action does the same on a recast session, and what it leaves is recast. -/
def Ignores (φ : Session → Session) (x : StateM Session α) : Prop :=
  ∀ s, x (φ s) = ((x s).1, φ (x s).2)

theorem ignores_pure (a : α) : Ignores φ (pure a) := fun _ => rfl

theorem Ignores.bind {x : StateM Session α} {f : α → StateM Session β} (hx : Ignores φ x)
    (hf : ∀ a, Ignores φ (f a)) : Ignores φ (x >>= f) := by
  intro s
  rw [run_bind, run_bind, hx]
  exact hf _ _

/-- A session is recast in a way that calls, log entries and failures do not take part in, its
    registry by a function of its own. -/
structure Recasting (φ : Session → Session) (ρ : Registry → Registry) : Prop where
  registry (s : Session) : (φ s).registry = ρ s.registry
  withRegistry (s : Session) (r : Registry) : φ (s.withRegistry r) = (φ s).withRegistry (ρ r)
  fault? (s : Session) (c : Call) : (φ s).fault? c = s.fault? c
  noted (s : Session) (cs : List Call) (ls : List LogEntry) : φ (s.noted cs ls) = (φ s).noted cs ls
  reporting (s : Session) (ts : List Telemetry) : φ (s.reporting ts) = (φ s).reporting ts

namespace Recasting

variable (h : Recasting φ ρ)

include h

theorem log (e : LogEntry) : Ignores φ (log e) := by
  intro s
  rw [run_log, run_log, h.noted]

theorem report (t : Telemetry) : Ignores φ (report t) := by
  intro s
  rw [run_report, run_report, h.reporting]

theorem ask {c : Call} {fail : Fault → ε} {answer : Session → α}
    (ha : ∀ s, answer (φ s) = answer s) : Ignores φ (ask c fail answer) := by
  intro s
  rw [run_ask, run_ask, h.fault?, ← h.noted, ha]
  cases s.fault? c <;> rfl

theorem send (c : Call) (fail : Fault → ε) : Ignores φ (send c fail) := by
  intro s
  rw [run_send, run_send, h.fault?, ← h.noted]
  cases s.fault? c <;> rfl

theorem change (c : Call) (act : Registry → Except RegistryError Registry)
    (ha : ∀ r, act (ρ r) = (act r).map ρ) : Ignores φ (change c act) := by
  intro s
  rw [run_change, run_change, h.fault?, h.registry, ha, ← h.noted]
  cases s.fault? c with
  | some f => rfl
  | none =>
    cases act s.registry with
    | error e => rfl
    | ok r =>
      dsimp only [Except.map]
      rw [h.noted, h.withRegistry]

theorem changeFiles {c : Call} {id version : String} {act : Session → Session}
    (ha : ∀ s, act (φ s) = φ (act s)) : Ignores φ (changeFiles c id version act) := by
  intro s
  rw [run_changeFiles, run_changeFiles, h.fault?, ← h.noted, ha]
  cases s.fault? c <;> rfl

theorem downloadValidationCopy (hf : ∀ s, (φ s).validationFiles = s.validationFiles)
    (p : Package) : Ignores φ (reconcileServices.downloadValidationCopy p) := by
  intro s
  rw [run_downloadValidationCopy, run_downloadValidationCopy, h.fault?, hf, ← h.noted]

theorem loadTrustGraph (hg : ∀ r k, (ρ r).loadTrustGraph k = r.loadTrustGraph k)
    (key : CertificateKey) : Ignores φ (loadTrustGraph key) := by
  intro s
  rw [run_loadTrustGraph, run_loadTrustGraph, h.fault?, h.registry, hg, ← h.noted, ← h.noted]
  cases s.fault? (.trustGraph key) <;> rfl

end Recasting

end Session

open Session

/-! ### Reconciliations -/

/-- Services none of which minds a recast. -/
structure ReconcileServices.Ignore (sv : ReconcileServices (StateM Session))
    (φ : Session → Session) : Prop where
  validationSet (id : Uuid) : Ignores φ (sv.validationSet id)
  package (id version : String) : Ignores φ (sv.package id version)
  updateStatus (p : Package) (status : PackageStatus) (commit : Bool) :
    Ignores φ (sv.updateStatus p status commit)
  downloadValidationCopy (p : Package) : Ignores φ (sv.downloadValidationCopy p)
  savePublicCopy (p : Package) (content : ByteArray) : Ignores φ (sv.savePublicCopy p content)
  deleteValidationCopy (id version : String) : Ignores φ (sv.deleteValidationCopy id version)
  deletePublicCopy (id version : String) : Ignores φ (sv.deletePublicCopy id version)
  scheduleRecheck (m : ValidationMessage) (t : Instant) : Ignores φ (sv.scheduleRecheck m t)
  notify (notice : Notice) (p : Package) : Ignores φ (sv.notify notice p)
  report (t : Telemetry) : Ignores φ (sv.report t)
  log (e : LogEntry) : Ignores φ (sv.log e)
  now : Ignores φ sv.now

namespace ReconcileServices.Ignore

variable {sv : ReconcileServices (StateM Session)} {φ : Session → Session}
  (h : sv.Ignore φ)

include h

theorem rollBack (p : Package) (cause : RegistryError) :
    Ignores φ (Admission.rollBack sv p cause) := by
  refine (h.deletePublicCopy _ _).bind fun deleted => ?_
  cases deleted <;> exact h.log _

theorem cleanUp (p : Package) : Ignores φ (Admission.cleanUp sv p) := by
  refine (h.deleteValidationCopy _ _).bind fun deleted => ?_
  cases deleted with
  | error e => exact h.log _
  | ok => exact ignores_pure _

theorem publish (p : Package) : Ignores φ (Admission.publish sv p) := by
  refine (h.downloadValidationCopy p).bind fun content => ?_
  cases content with
  | error e => exact ignores_pure _
  | ok content =>
    refine (h.savePublicCopy p content).bind fun saved => ?_
    cases saved with
    | error e => exact ignores_pure _
    | ok =>
      refine (h.updateStatus p _ _).bind fun updated => ?_
      cases updated with
      | error e => exact (h.rollBack p e).bind fun _ => ignores_pure _
      | ok => exact (h.log _).bind fun _ => (h.cleanUp p).bind fun _ => ignores_pure _

theorem tellOwner (notice : Notice) (p : Package) :
    Ignores φ (Admission.tellOwner sv notice p) := by
  refine (h.notify notice p).bind fun told => ?_
  cases told with
  | error e => exact h.log _
  | ok => exact ignores_pure _

theorem applyTransition (policy : Policy) (set : ValidationSet)
    (resolved : List ResolvedValidation) (p : Package) :
    Ignores φ (Admission.applyTransition sv policy set resolved p) := by
  rw [Admission.applyTransition]
  cases nextTransition p.status (classify resolved) with
  | promote =>
    refine (h.publish p).bind fun published => ?_
    cases published with
    | error e => exact ignores_pure _
    | ok => exact (h.tellOwner _ _).bind fun _ => ignores_pure _
  | reject =>
    refine (h.updateStatus p _ _).bind fun updated => ?_
    cases updated with
    | error e => exact ignores_pure _
    | ok => exact (h.tellOwner _ _).bind fun _ => ignores_pure _
  | awaitRecheck =>
    refine h.now.bind fun now => ?_
    cases now.add? (recheckPeriod resolved policy.defaultRecheckPeriod) with
    | none => exact ignores_pure _
    | some t =>
      refine (h.scheduleRecheck _ t).bind fun scheduled => ?_
      cases scheduled with
      | error e => exact ignores_pure _
      | ok => exact (h.log _).bind fun _ => ignores_pure _
  | unchanged => exact ignores_pure _

theorem reportStatus (set : ValidationSet) (old : PackageStatus) (p : Package) :
    Ignores φ (Admission.reportStatus sv set old p) := by
  rw [Admission.reportStatus]
  split
  · exact (h.log _).bind fun _ => h.report _
  · exact ignores_pure _

theorem logAll (l : List LogEntry) : Ignores φ (Admission.logAll sv l) := by
  induction l with
  | nil => exact ignores_pure _
  | cons e l ih => exact (h.log e).bind fun _ => ih

theorem settleOutcome (policy : Policy) (set : ValidationSet) (p : Package) :
    Ignores φ (Admission.settleOutcome sv policy set p) := by
  refine (h.log _).bind fun _ => (h.applyTransition policy set _ p).bind fun x => ?_
  obtain ⟨after, answer⟩ := x
  have hreported : Ignores φ (do
      sv.report (.totalDuration ((← sv.now).since set.created) (after.status == .available))
      Admission.reportStatus sv set p.status after
      return (after, answer.map fun recheckAt =>
        (⟨p.status, after.status, classify (policy.resolve set), recheckAt⟩ :
          ReconcileOutcome))) :=
    h.now.bind fun _ => (h.report _).bind fun _ => (h.reportStatus set _ after).bind fun _ =>
      ignores_pure _
  cases answer with
  | ok t => exact hreported
  | error e =>
    cases e with
    | beyondLastInstant => exact ignores_pure _
    | _ => exact hreported

theorem processOutcome (policy : Policy) (set : ValidationSet) (p : Package) :
    Ignores φ (Admission.processOutcome sv policy set p) :=
  (h.logAll _).bind fun _ => h.settleOutcome policy set p

theorem handleMessage (policy : Policy) (m : ValidationMessage) :
    Ignores φ (Admission.handleMessage sv policy m) := by
  refine (h.validationSet m.trackingId).bind fun set => ?_
  match set with
  | .error e => exact ignores_pure _
  | .ok none => exact ignores_pure _
  | .ok (some set) =>
    refine (h.package set.packageId set.packageNormalizedVersion).bind fun p => ?_
    match p with
    | .error e => exact ignores_pure _
    | .ok none => exact ignores_pure _
    | .ok (some p) => exact (h.processOutcome policy set p).bind fun _ => ignores_pure _

end ReconcileServices.Ignore

/-! ### Verification results -/

/-- Services none of which minds a recast. -/
structure TrustServices.Ignore (sv : TrustServices (StateM Session))
    (φ : Session → Session) : Prop where
  pendingAttempt (k : CertificateKey) (id : Uuid) : Ignores φ (sv.pendingAttempt k id)
  certificate (k : CertificateKey) : Ignores φ (sv.certificate k)
  trustGraph (k : CertificateKey) : Ignores φ (sv.trustGraph k)
  commit (c : TrustChanges) : Ignores φ (sv.commit c)
  report (t : Telemetry) : Ignores φ (sv.report t)
  log (e : LogEntry) : Ignores φ (sv.log e)

namespace TrustServices.Ignore

variable {sv : TrustServices (StateM Session)} {φ : Session → Session} (h : sv.Ignore φ)

include h

theorem completePlan (j : Judgement) : Ignores φ (Admission.completePlan sv j) := by
  rw [Admission.completePlan]
  cases j.cascade with
  | none => exact ignores_pure _
  | some rule =>
    refine (h.trustGraph _).bind fun graph => ?_
    cases graph <;> exact ignores_pure _

theorem logIndeterminate (maximum : UInt32) (result : VerificationResult) (j : Judgement) :
    Ignores φ (Admission.logIndeterminate sv maximum result j) := by
  rw [Admission.logIndeterminate]
  split
  · exact h.log _
  · exact ignores_pure _

theorem findVerification (m : CertificateMessage) :
    Ignores φ (Admission.findVerification sv m) := by
  refine (h.pendingAttempt _ _).bind fun attempt => ?_
  cases attempt <;> exact ignores_pure _

theorem planResult (maximum : UInt32) (m : CertificateMessage) (result : VerificationResult) :
    Ignores φ (Admission.planResult sv maximum m result) := by
  refine (h.findVerification m).bind fun attempt => ?_
  match attempt with
  | .error e => exact ignores_pure _
  | .ok none => exact (h.log _).bind fun _ => ignores_pure _
  | .ok (some attempt) =>
    refine (h.certificate attempt.certificateKey).bind fun certificate => ?_
    match certificate with
    | .error e => exact ignores_pure _
    | .ok none => exact (h.log _).bind fun _ => ignores_pure _
    | .ok (some certificate) =>
      exact (h.logIndeterminate _ _ _).bind fun _ => (h.completePlan _).bind fun _ =>
        ignores_pure _

theorem reportInvalidated (l : List Signature) :
    Ignores φ (Admission.reportInvalidated sv l) := by
  induction l with
  | nil => exact ignores_pure _
  | cons signature l ih => exact (h.report _).bind fun _ => ih

theorem commitPlan (result : VerificationResult) (plan : TrustPlan) :
    Ignores φ (Admission.commitPlan sv result plan) := by
  refine (h.commit _).bind fun committed => ?_
  cases committed with
  | error e => exact ignores_pure _
  | ok =>
    refine (h.log _).bind fun _ => ?_
    have hreported := (h.reportInvalidated plan.changes.invalidatedSignatures).bind fun _ =>
      ignores_pure (Except.ok () : Except TrustError Unit)
    cases plan.alert with
    | true => exact (h.report _).bind fun _ => hreported
    | false => exact hreported

theorem saveResult (maximum : UInt32) (m : CertificateMessage) (result : VerificationResult) :
    Ignores φ (Admission.saveResult sv maximum m result) := by
  refine (h.planResult maximum m result).bind fun plan => ?_
  match plan with
  | .error e => exact ignores_pure _
  | .ok none => exact ignores_pure _
  | .ok (some plan) => exact (h.commitPlan result plan).bind fun _ => ignores_pure _

end TrustServices.Ignore

namespace Session

variable {φ : Session → Session} {ρ : Registry → Registry}

/-- The recast spares packages, validation sets, both file stores and the clock. -/
structure SparesOutcomes (φ : Session → Session) (ρ : Registry → Registry) : Prop
    extends Recasting φ ρ where
  validationSets (r : Registry) : (ρ r).validationSets = r.validationSets
  packages (r : Registry) : (ρ r).packages = r.packages
  updateStatus (r : Registry) (p : Package) (status : PackageStatus) (commit : Bool) :
    (ρ r).updateStatus p status commit = (r.updateStatus p status commit).map ρ
  validationFiles (s : Session) : (φ s).validationFiles = s.validationFiles
  withValidationFiles (s : Session) (files : FileStore) :
    φ (s.withValidationFiles files) = (φ s).withValidationFiles files
  publicFiles (s : Session) : (φ s).publicFiles = s.publicFiles
  withPublicFiles (s : Session) (files : FileStore) :
    φ (s.withPublicFiles files) = (φ s).withPublicFiles files
  clock (s : Session) : (φ s).clock = s.clock

/-- The recast spares certificates, attempts, signatures, timestamps and signing states. -/
structure SparesTrust (φ : Session → Session) (ρ : Registry → Registry) : Prop
    extends Recasting φ ρ where
  pendingAttempt? (r : Registry) (k : CertificateKey) (id : Uuid) :
    (ρ r).pendingAttempt? k id = r.pendingAttempt? k id
  certificates (r : Registry) : (ρ r).certificates = r.certificates
  loadTrustGraph (r : Registry) (k : CertificateKey) : (ρ r).loadTrustGraph k = r.loadTrustGraph k
  commit (r : Registry) (c : TrustChanges) : (ρ r).commit c = (r.commit c).map ρ

theorem SparesOutcomes.services (h : SparesOutcomes φ ρ) : reconcileServices.Ignore φ where
  validationSet id := h.ask fun s => by rw [h.registry, h.validationSets]
  package id version := h.ask fun s => by
    rw [h.registry, Registry.package?, Registry.package?, h.packages]
  updateStatus p status commit :=
    h.change _ (·.updateStatus p status commit) fun r => h.updateStatus r p status commit
  downloadValidationCopy := h.downloadValidationCopy h.validationFiles
  savePublicCopy p content := h.changeFiles fun s => by
    rw [h.publicFiles]
    exact (h.withPublicFiles s _).symm
  deleteValidationCopy id version := h.changeFiles fun s => by
    rw [h.validationFiles]
    exact (h.withValidationFiles s _).symm
  deletePublicCopy id version := h.changeFiles fun s => by
    rw [h.publicFiles]
    exact (h.withPublicFiles s _).symm
  scheduleRecheck _ _ := h.send _ _
  notify _ _ := h.send _ _
  report := h.report
  log := h.log
  now s := by rw [run_now, run_now, h.clock]

theorem SparesTrust.services (h : SparesTrust φ ρ) : trustServices.Ignore φ where
  pendingAttempt k id := h.ask fun s => by rw [h.registry, h.pendingAttempt?]
  certificate k := h.ask fun s => by rw [h.registry, h.certificates]
  trustGraph := h.toRecasting.loadTrustGraph h.loadTrustGraph
  commit c := h.change _ (·.commit c) fun r => h.commit r c
  report := h.report
  log := h.log

theorem ignores_handle (h : SparesOutcomes φ ρ) (policy : Policy) (m : ValidationMessage) :
    Ignores φ (handle policy m) :=
  h.services.handleMessage policy m

theorem ignores_process (h : SparesOutcomes φ ρ) (policy : Policy) (set : ValidationSet)
    (p : Package) : Ignores φ (process policy set p) :=
  h.services.processOutcome policy set p

theorem ignores_save (h : SparesTrust φ ρ) (maximum : UInt32) (m : CertificateMessage)
    (result : VerificationResult) : Ignores φ (save maximum m result) :=
  h.services.saveResult maximum m result

end Session

end Admission
