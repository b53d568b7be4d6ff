import Admission.Session.Basic

/-!
What each service of a session answers and leaves behind. A call is put on record and then ends in
the failure made for it, if there is one; so every statement here splits on `fault?`.
-/

namespace Admission.Session

variable {α β ε : Type}

/-- The session with some calls and log entries more on record. -/
def noted (s : Session) (cs : List Call) (ls : List LogEntry) : Session :=
  { s with calls := s.calls ++ cs, logs := s.logs ++ ls }

def withRegistry (s : Session) (registry : Registry) : Session := { s with registry }

def withValidationFiles (s : Session) (validationFiles : FileStore) : Session :=
  { s with validationFiles }

def withPublicFiles (s : Session) (publicFiles : FileStore) : Session := { s with publicFiles }

/-- The session with some reports made. -/
def reporting (s : Session) (ts : List Telemetry) : Session :=
  { s with
    calls := s.calls ++ ts.map .report
    metrics := s.metrics ++ ts.map (·.metric)
    logs := s.logs ++ ts.flatMap (·.logs) }

/-- The failure that a call is made to end in, if any. -/
def fault? (s : Session) (c : Call) : Option Fault := s.faults.lookup c.faultName

/-- No call is made to fail. -/
def Untroubled (s : Session) : Prop := ∀ c, s.fault? c = none

theorem untroubled_of_faults_nil {s : Session} (h : s.faults = []) : s.Untroubled := by
  intro c
  rw [fault?, h]
  rfl

section Records

variable (s : Session) (cs ds : List Call) (ls ms : List LogEntry)

@[simp] theorem registry_noted : (s.noted cs ls).registry = s.registry := rfl
@[simp] theorem validationFiles_noted : (s.noted cs ls).validationFiles = s.validationFiles := rfl
@[simp] theorem publicFiles_noted : (s.noted cs ls).publicFiles = s.publicFiles := rfl
@[simp] theorem calls_noted : (s.noted cs ls).calls = s.calls ++ cs := rfl
@[simp] theorem fault?_noted (c : Call) : (s.noted cs ls).fault? c = s.fault? c := rfl

@[simp] theorem withRegistry_noted (r : Registry) :
    (s.noted cs ls).withRegistry r = (s.withRegistry r).noted cs ls := rfl

@[simp] theorem withValidationFiles_noted (files : FileStore) :
    (s.noted cs ls).withValidationFiles files = (s.withValidationFiles files).noted cs ls := rfl

@[simp] theorem withPublicFiles_noted (files : FileStore) :
    (s.noted cs ls).withPublicFiles files = (s.withPublicFiles files).noted cs ls := rfl

@[simp] theorem fault?_withRegistry (r : Registry) (c : Call) :
    (s.withRegistry r).fault? c = s.fault? c := rfl

@[simp] theorem validationFiles_withRegistry (r : Registry) :
    (s.withRegistry r).validationFiles = s.validationFiles := rfl

@[simp] theorem registry_withPublicFiles (files : FileStore) :
    (s.withPublicFiles files).registry = s.registry := rfl

@[simp] theorem validationFiles_withPublicFiles (files : FileStore) :
    (s.withPublicFiles files).validationFiles = s.validationFiles := rfl

@[simp] theorem publicFiles_withPublicFiles (files : FileStore) :
    (s.withPublicFiles files).publicFiles = files := rfl

@[simp] theorem fault?_withPublicFiles (files : FileStore) (c : Call) :
    (s.withPublicFiles files).fault? c = s.fault? c := rfl

@[simp] theorem noted_noted : (s.noted cs ls).noted ds ms = s.noted (cs ++ ds) (ls ++ ms) := by
  simp [noted, List.append_assoc]

@[simp] theorem noted_nil : s.noted [] [] = s := by
  simp [noted]

end Records

@[simp] theorem reporting_reporting (s : Session) (ts us : List Telemetry) :
    (s.reporting ts).reporting us = s.reporting (ts ++ us) := by
  simp [reporting, List.append_assoc]

@[simp] theorem reporting_nil (s : Session) : s.reporting [] = s := by
  simp [reporting]

@[simp] theorem calls_reporting (s : Session) (ts : List Telemetry) :
    (s.reporting ts).calls = s.calls ++ ts.map .report := rfl

/-! ### Calls made since -/

/-- All calls that a session has made since are of one kind. -/
def CallsOnly (s : Session) (q : Call → Prop) (s' : Session) : Prop :=
  ∃ cs, s'.calls = s.calls ++ cs ∧ ∀ c ∈ cs, q c

section CallsOnly

variable {s s' s'' : Session} {q : Call → Prop}

theorem CallsOnly.of_calls_eq (h : s'.calls = s.calls) : s.CallsOnly q s' :=
  ⟨[], by rw [h, List.append_nil], List.forall_mem_nil _⟩

theorem CallsOnly.trans (h : s.CallsOnly q s') (h' : s'.CallsOnly q s'') : s.CallsOnly q s'' := by
  obtain ⟨cs, hcs, hc⟩ := h
  obtain ⟨ds, hds, hd⟩ := h'
  refine ⟨cs ++ ds, ?_, List.forall_mem_append.2 ⟨hc, hd⟩⟩
  rw [hds, hcs, List.append_assoc]

theorem callsOnly_noted {cs : List Call} (ls : List LogEntry) (hcs : ∀ c ∈ cs, q c) :
    s.CallsOnly q (s.noted cs ls) :=
  ⟨cs, rfl, hcs⟩

theorem callsOnly_logged (ls : List LogEntry) : s.CallsOnly q (s.noted [] ls) :=
  callsOnly_noted ls (List.forall_mem_nil _)

theorem callsOnly_reporting {ts : List Telemetry} (hts : ∀ t ∈ ts, q (.report t)) :
    s.CallsOnly q (s.reporting ts) :=
  ⟨ts.map .report, rfl, List.forall_mem_map.2 hts⟩

/-- The calls made since are told by their number. -/
theorem CallsOnly.drop (h : s.CallsOnly q s') : ∀ c ∈ s'.calls.drop s.calls.length, q c := by
  obtain ⟨cs, hcs, hc⟩ := h
  rwa [hcs, List.drop_left]

end CallsOnly

/-! ### Running actions one after another -/

theorem run_bind (x : StateM Session α) (f : α → StateM Session β) (s : Session) :
    (x >>= f) s = f (x s).1 (x s).2 := rfl

theorem run_pure (a : α) (s : Session) : (pure a : StateM Session α) s = (a, s) := rfl

theorem run_get (s : Session) : (get : StateM Session Session) s = (s, s) := rfl

theorem run_log (e : LogEntry) (s : Session) : log e s = ((), s.noted [] [e]) := by
  simp [log, noted]

theorem run_report (t : Telemetry) (s : Session) : report t s = ((), s.reporting [t]) := by
  simp [report, reporting]

theorem run_record (c : Call) (s : Session) : record c s = (s.fault? c, s.noted [c] []) := by
  simp [record, noted, fault?]

/-! ### The services -/

theorem run_ask (c : Call) (fail : Fault → ε) (answer : Session → α) (s : Session) :
    ask c fail answer s = match s.fault? c with
      | some f => (.error (fail f), s.noted [c] [])
      | none => (.ok (answer (s.noted [c] [])), s.noted [c] []) := by
  rw [ask, run_bind, run_record]
  cases s.fault? c <;> rfl

theorem run_send (c : Call) (fail : Fault → ε) (s : Session) :
    send c fail s = match s.fault? c with
      | some f => (.error (fail f), s.noted [c] [])
      | none => (.ok (), s.noted [c] []) := by
  rw [send, run_bind, run_record]
  cases s.fault? c <;> rfl

theorem run_change (c : Call) (act : Registry → Except RegistryError Registry) (s : Session) :
    change c act s = match s.fault? c with
      | some f => (.error f.registryError, s.noted [c] [])
      | none =>
        match act s.registry with
        | .error e => (.error e, s.noted [c] [])
        | .ok registry => (.ok (), (s.withRegistry registry).noted [c] []) := by
  rw [change, run_bind, run_record]
  cases s.fault? c with
  | some f => rfl
  | none =>
    show (match act s.registry with | .error e => _ | .ok registry => _ : StateM Session _) _ = _
    cases act s.registry <;> rfl

theorem run_changeFiles (c : Call) (id version : String) (act : Session → Session) (s : Session) :
    changeFiles c id version act s = match s.fault? c with
      | some f => (.error (f.storageError id version), s.noted [c] [])
      | none => (.ok (), act (s.noted [c] [])) := by
  rw [changeFiles, run_bind, run_record]
  cases s.fault? c <;> rfl

theorem run_loadTrustGraph (key : CertificateKey) (s : Session) :
    loadTrustGraph key s = match s.fault? (.trustGraph key) with
      | some f => (.error f.registryError, s.noted [.trustGraph key] [])
      | none => (.ok (s.registry.loadTrustGraph key),
          s.noted [.trustGraph key] [(s.registry.loadTrustGraph key).loadedLog key]) := by
  rw [loadTrustGraph, run_bind, run_record]
  cases s.fault? (.trustGraph key) with
  | some f => rfl
  | none =>
    simp only [run_bind, run_get, run_log, run_pure, registry_noted, noted_noted, List.nil_append,
      List.append_nil]

/-! ### The services as reconciliation calls them -/

theorem run_validationSet (id : Uuid) (s : Session) :
    reconcileServices.validationSet id s = match s.fault? (.validationSet id) with
      | some f => (.error f.registryError, s.noted [.validationSet id] [])
      | none => (.ok (s.registry.validationSets.find? id), s.noted [.validationSet id] []) :=
  run_ask _ _ _ s

theorem run_package (id version : String) (s : Session) :
    reconcileServices.package id version s = match s.fault? (.package id version) with
      | some f => (.error f.registryError, s.noted [.package id version] [])
      | none => (.ok (s.registry.package? id version), s.noted [.package id version] []) :=
  run_ask _ _ _ s

theorem run_updateStatus (p : Package) (status : PackageStatus) (commit : Bool) (s : Session) :
    reconcileServices.updateStatus p status commit s =
      match s.fault? (.updateStatus p status commit) with
      | some f => (.error f.registryError, s.noted [.updateStatus p status commit] [])
      | none =>
        match s.registry.updateStatus p status commit with
        | .error e => (.error e, s.noted [.updateStatus p status commit] [])
        | .ok registry => (.ok (),
            (s.withRegistry registry).noted [.updateStatus p status commit] []) :=
  run_change (.updateStatus p status commit) (·.updateStatus p status commit) s

theorem run_downloadValidationCopy (p : Package) (s : Session) :
    reconcileServices.downloadValidationCopy p s =
      (match s.fault? (.downloadValidationCopy p.id p.normalizedVersion) with
        | some f => .error (f.storageError p.id p.normalizedVersion)
        | none =>
          match s.validationFiles.find? (p.id, p.normalizedVersion) with
          | some content => .ok content
          | none => .error (.notFound p.id p.normalizedVersion),
        s.noted [.downloadValidationCopy p.id p.normalizedVersion] []) := by
  show downloadValidationCopy p s = _
  rw [downloadValidationCopy, run_bind, run_record]
  cases s.fault? (.downloadValidationCopy p.id p.normalizedVersion) with
  | some f => rfl
  | none =>
    show (match s.validationFiles.find? _ with | some c => _ | none => _ : StateM Session _) _ = _
    cases s.validationFiles.find? (p.id, p.normalizedVersion) <;> rfl

theorem run_savePublicCopy (p : Package) (content : ByteArray) (s : Session) :
    reconcileServices.savePublicCopy p content s =
      match s.fault? (.savePublicCopy p.id p.normalizedVersion content) with
      | some f => (.error (f.storageError p.id p.normalizedVersion),
          s.noted [.savePublicCopy p.id p.normalizedVersion content] [])
      | none => (.ok (),
          (s.withPublicFiles (s.publicFiles.insert (p.id, p.normalizedVersion) content)).noted
            [.savePublicCopy p.id p.normalizedVersion content] []) :=
  run_changeFiles (.savePublicCopy p.id p.normalizedVersion content) p.id p.normalizedVersion
    (fun s => s.withPublicFiles (s.publicFiles.insert (p.id, p.normalizedVersion) content)) s

theorem run_deleteValidationCopy (id version : String) (s : Session) :
    reconcileServices.deleteValidationCopy id version s =
      match s.fault? (.deleteValidationCopy id version) with
      | some f => (.error (f.storageError id version),
          s.noted [.deleteValidationCopy id version] [])
      | none => (.ok (), (s.withValidationFiles (s.validationFiles.erase (id, version))).noted
          [.deleteValidationCopy id version] []) :=
  run_changeFiles (.deleteValidationCopy id version) id version
    (fun s => s.withValidationFiles (s.validationFiles.erase (id, version))) s

theorem run_deletePublicCopy (id version : String) (s : Session) :
    reconcileServices.deletePublicCopy id version s =
      match s.fault? (.deletePublicCopy id version) with
      | some f => (.error (f.storageError id version), s.noted [.deletePublicCopy id version] [])
      | none => (.ok (), (s.withPublicFiles (s.publicFiles.erase (id, version))).noted
          [.deletePublicCopy id version] []) :=
  run_changeFiles (.deletePublicCopy id version) id version
    (fun s => s.withPublicFiles (s.publicFiles.erase (id, version))) s

theorem run_scheduleRecheck (m : ValidationMessage) (t : Instant) (s : Session) :
    reconcileServices.scheduleRecheck m t s = match s.fault? (.scheduleRecheck m t) with
      | some f => (.error ⟨m.trackingId, f.text⟩, s.noted [.scheduleRecheck m t] [])
      | none => (.ok (), s.noted [.scheduleRecheck m t] []) :=
  run_send _ _ s

theorem run_notify (notice : Notice) (p : Package) (s : Session) :
    reconcileServices.notify notice p s = match s.fault? (.notify notice p) with
      | some f => (.error ⟨f.text⟩, s.noted [.notify notice p] [])
      | none => (.ok (), s.noted [.notify notice p] []) :=
  run_send _ _ s

theorem run_now (s : Session) : reconcileServices.now s = (s.clock, s) := rfl

theorem run_reconcileLog (e : LogEntry) (s : Session) :
    reconcileServices.log e s = ((), s.noted [] [e]) :=
  run_log e s

theorem run_reconcileReport (t : Telemetry) (s : Session) :
    reconcileServices.report t s = ((), s.reporting [t]) :=
  run_report t s

/-! ### The services as the propagation of trust calls them -/

theorem run_pendingAttempt (key : CertificateKey) (id : Uuid) (s : Session) :
    trustServices.pendingAttempt key id s = match s.fault? (.pendingAttempt key id) with
      | some f => (.error f.registryError, s.noted [.pendingAttempt key id] [])
      | none => (.ok (s.registry.pendingAttempt? key id), s.noted [.pendingAttempt key id] []) :=
  run_ask _ _ _ s

theorem run_certificate (key : CertificateKey) (s : Session) :
    trustServices.certificate key s = match s.fault? (.certificate key) with
      | some f => (.error f.registryError, s.noted [.certificate key] [])
      | none => (.ok (s.registry.certificates.find? key), s.noted [.certificate key] []) :=
  run_ask _ _ _ s

theorem run_trustGraph (key : CertificateKey) (s : Session) :
    trustServices.trustGraph key s = match s.fault? (.trustGraph key) with
      | some f => (.error f.registryError, s.noted [.trustGraph key] [])
      | none => (.ok (s.registry.loadTrustGraph key),
          s.noted [.trustGraph key] [(s.registry.loadTrustGraph key).loadedLog key]) :=
  run_loadTrustGraph key s

theorem run_commit (c : TrustChanges) (s : Session) :
    trustServices.commit c s = match s.fault? (.commit c) with
      | some f => (.error f.registryError, s.noted [.commit c] [])
      | none =>
        match s.registry.commit c with
        | .error e => (.error e, s.noted [.commit c] [])
        | .ok registry => (.ok (), (s.withRegistry registry).noted [.commit c] []) :=
  run_change (.commit c) (·.commit c) s

theorem run_trustLog (e : LogEntry) (s : Session) :
    trustServices.log e s = ((), s.noted [] [e]) :=
  run_log e s

theorem run_trustReport (t : Telemetry) (s : Session) :
    trustServices.report t s = ((), s.reporting [t]) :=
  run_report t s

end Admission.Session
