import Admission.Reconcile.Outcome
import Admission.Trust.Propagation

/-!
A session: a registry, the two stores of package files, a clock, and failures that are made to
happen. Every call of a service is recorded before it fails or acts, so that the record shows what
was asked for and in which order.
-/

namespace Admission

/-- What a package file is kept under: identifier and normalized version, exactly. -/
abbrev FileKey := String × String

instance : Ord FileKey := lexOrd

/-- Package files by identifier and version. -/
abbrev FileStore := SortedMap FileKey ByteArray

/-- What kind of error a failure shows as. -/
inductive FaultKind where
  | conflict
  | snapshot
  | packageNotFound
  | notFound
  | other
deriving DecidableEq, Repr

/-- A failure that is made to happen. -/
structure Fault where
  kind : FaultKind
  text : String
deriving DecidableEq

/-- A call of a service. -/
inductive Call where
  | validationSet (id : Uuid)
  | package (id version : String)
  | updateStatus (package : Package) (status : PackageStatus) (commit : Bool)
  | pendingAttempt (certificate : CertificateKey) (id : Uuid)
  | certificate (key : CertificateKey)
  | trustGraph (key : CertificateKey)
  | commit (changes : TrustChanges)
  | downloadValidationCopy (id version : String)
  | savePublicCopy (id version : String) (content : ByteArray)
  | deleteValidationCopy (id version : String)
  | deletePublicCopy (id version : String)
  | scheduleRecheck (message : ValidationMessage) (notBefore : Instant)
  | notify (notice : Notice) (package : Package)
  | report (telemetry : Telemetry)

/-- The state of a session. -/
structure Session where
  registry : Registry
  validationFiles : FileStore
  publicFiles : FileStore
  clock : Instant
  faults : List (String × Fault)
  calls : List Call
  logs : List LogEntry
  metrics : List Metric

namespace Call

/-- The name of a service in records. -/
def name : Call → String
  | validationSet _ => "get_validation_set"
  | package .. => "get_package"
  | updateStatus .. => "update_package_status"
  | pendingAttempt .. => "find_pending_attempt"
  | certificate _ => "get_certificate"
  | trustGraph _ => "load_trust_graph"
  | commit _ => "commit"
  | downloadValidationCopy .. => "download_validation_copy"
  | savePublicCopy .. => "save_public_copy"
  | deleteValidationCopy .. => "delete_validation_copy"
  | deletePublicCopy .. => "delete_public_copy"
  | scheduleRecheck .. => "schedule_recheck"
  | notify .validationFailed _ => "notify_validation_failed"
  | notify .signedValidationFailed _ => "notify_signed_validation_failed"
  | notify .published _ => "notify_published"
  | report (.totalDuration ..) => "record_total_duration"
  | report (.statusChange ..) => "record_status_change"
  | report (.certificateAlert _) => "record_certificate_alert"
  | report (.signatureInvalidated _) => "record_signature_invalidated"

/-- The name under which a service is made to fail, one for all notices. -/
def faultName : Call → String
  | notify .. => "notify"
  | c => c.name

end Call

namespace Fault

/-- A failure as a registry tells it. -/
def registryError (f : Fault) : RegistryError :=
  match f.kind with
  | .conflict => .conflict (.other f.text)
  | .snapshot => .snapshot (.other f.text)
  | .packageNotFound => .packageNotFound f.text "0.0.0"
  | _ => .backend f.text

/-- A failure as a package file store tells it. -/
def storageError (f : Fault) (id version : String) : StorageError :=
  match f.kind with
  | .notFound => .notFound id version
  | _ => .io id version f.text

end Fault

namespace Session

/-- A session at its start. -/
def start (registry : Registry) (validationFiles : FileStore) (clock : Instant) : Session :=
  ⟨registry, validationFiles, .empty, clock, [], [], [], []⟩

/-- Records a call and answers the failure that it is to end in, if any. -/
def record (c : Call) : StateM Session (Option Fault) := fun s =>
  (s.faults.lookup c.faultName, { s with calls := s.calls ++ [c] })

/-- Logs an entry. -/
def log (e : LogEntry) : StateM Session Unit := fun s => ((), { s with logs := s.logs ++ [e] })

/-- Records a report, its metric and its log entries. -/
def report (t : Telemetry) : StateM Session Unit := fun s =>
  ((), { s with
    calls := s.calls ++ [.report t]
    metrics := s.metrics ++ [t.metric]
    logs := s.logs ++ t.logs })

/-- Records a call and looks something up, unless it is to fail. -/
def ask {ε α : Type} (c : Call) (fail : Fault → ε) (answer : Session → α) :
    StateM Session (Except ε α) := do
  match ← record c with
  | some f => return .error (fail f)
  | none => return .ok (answer (← get))

/-- Records a call and changes the registry, unless it is to fail or the change is refused. -/
def change (c : Call) (act : Registry → Except RegistryError Registry) :
    StateM Session (Except RegistryError Unit) := do
  match ← record c with
  | some f => return .error f.registryError
  | none =>
    match act (← get).registry with
    | .error e => return .error e
    | .ok registry =>
      modify fun s => { s with registry }
      return .ok ()

/-- Records a call and changes the package files, unless it is to fail. -/
def changeFiles (c : Call) (id version : String) (act : Session → Session) :
    StateM Session (Except StorageError Unit) := do
  match ← record c with
  | some f => return .error (f.storageError id version)
  | none =>
    modify act
    return .ok ()

/-- Records a call and answers the validation copy of a package, unless there is none. -/
def downloadValidationCopy (p : Package) : StateM Session (Except StorageError ByteArray) := do
  match ← record (.downloadValidationCopy p.id p.normalizedVersion) with
  | some f => return .error (f.storageError p.id p.normalizedVersion)
  | none =>
    match (← get).validationFiles.find? (p.id, p.normalizedVersion) with
    | some content => return .ok content
    | none => return .error (.notFound p.id p.normalizedVersion)

/-- Records a call that does nothing else, unless it is to fail. -/
def send {ε : Type} (c : Call) (fail : Fault → ε) : StateM Session (Except ε Unit) := do
  match ← record c with
  | some f => return .error (fail f)
  | none => return .ok ()

/-- Records a call and answers the trust graph of a certificate, unless it is to fail. -/
def loadTrustGraph (key : CertificateKey) : StateM Session (Except RegistryError TrustGraph) := do
  match ← record (.trustGraph key) with
  | some f => return .error f.registryError
  | none =>
    let graph := (← get).registry.loadTrustGraph key
    log (graph.loadedLog key)
    return .ok graph

/-- The services of a session for the reconciliation of validation outcomes. -/
def reconcileServices : ReconcileServices (StateM Session) where
  validationSet id :=
    ask (.validationSet id) Fault.registryError (·.registry.validationSets.find? id)
  package id version :=
    ask (.package id version) Fault.registryError (·.registry.package? id version)
  updateStatus p status commit :=
    change (.updateStatus p status commit) (·.updateStatus p status commit)
  downloadValidationCopy := downloadValidationCopy
  savePublicCopy p content :=
    changeFiles (.savePublicCopy p.id p.normalizedVersion content) p.id p.normalizedVersion
      fun s => { s with publicFiles := s.publicFiles.insert (p.id, p.normalizedVersion) content }
  deleteValidationCopy id version :=
    changeFiles (.deleteValidationCopy id version) id version
      fun s => { s with validationFiles := s.validationFiles.erase (id, version) }
  deletePublicCopy id version :=
    changeFiles (.deletePublicCopy id version) id version
      fun s => { s with publicFiles := s.publicFiles.erase (id, version) }
  scheduleRecheck m notBefore :=
    send (.scheduleRecheck m notBefore) fun f => ⟨m.trackingId, f.text⟩
  notify notice p := send (.notify notice p) fun f => ⟨f.text⟩
  report := report
  log := log
  now := fun s => (s.clock, s)

/-- The services of a session for saving verification results. -/
def trustServices : TrustServices (StateM Session) where
  pendingAttempt key id :=
    ask (.pendingAttempt key id) Fault.registryError (·.registry.pendingAttempt? key id)
  certificate key := ask (.certificate key) Fault.registryError (·.registry.certificates.find? key)
  trustGraph := loadTrustGraph
  commit c := change (.commit c) (·.commit c)
  report := report
  log := log

/-- Handles a validation message. -/
def handle (policy : Policy) (m : ValidationMessage) :
    StateM Session (Except ReconcileError ReconcileOutcome) :=
  handleMessage reconcileServices policy m

/-- Reconciles a set with a package as the caller has it. -/
def process (policy : Policy) (set : ValidationSet) (p : Package) :
    StateM Session (Package × Except ReconcileError ReconcileOutcome) :=
  processOutcome reconcileServices policy set p

/-- Saves a verification result. -/
def save (maximum : UInt32) (m : CertificateMessage) (result : VerificationResult) :
    StateM Session (Except TrustError Bool) :=
  saveResult trustServices maximum m result

end Session

end Admission
