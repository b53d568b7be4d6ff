import Admission.Proofs.Session.Services

/-!
What a reconciliation can come to in a session. Publishing stops at the first step that fails and
takes its copy back if that is the third (`publishing`); what is done for a transition is one of
eight things (`applying`); the reports follow (`processing`), and a message only adds that the set
and its package are looked up first (`handling`).
-/

namespace Admission

/-- What the files of a package are kept under. -/
def Package.fileKey (p : Package) : FileKey := (p.id, p.normalizedVersion)

/-- Whether a call only asks the registry for what a validation message is about. -/
def Call.findsOutcome : Call → Bool
  | .validationSet _ | .package .. => true
  | _ => false

namespace Session

variable {policy : Policy} {set : ValidationSet} {p : Package}

/-- Whether a status cannot be set, by a failure that is made or because the registry refuses. -/
def RefusesStatus (s : Session) (p : Package) (status : PackageStatus) (e : RegistryError) : Prop :=
  s.fault? (.updateStatus p status true) ≠ none ∨ s.registry.updateStatus p status true = .error e

/-- Nothing keeps the validation copy from going up to the public store. -/
def Copies (s : Session) (p : Package) (content : ByteArray) : Prop :=
  s.fault? (.downloadValidationCopy p.id p.normalizedVersion) = none ∧
    s.fault? (.savePublicCopy p.id p.normalizedVersion content) = none

/-- What publishing a package can answer and leave behind. -/
inductive Publishing (s : Session) (p : Package) : Except ReconcileError Unit → Session → Prop
  | undownloaded {e : StorageError}
      (hd : s.fault? (.downloadValidationCopy p.id p.normalizedVersion) ≠ none ∨
        s.validationFiles.find? p.fileKey = none) :
      Publishing s p (.error (.storage e))
        (s.noted [.downloadValidationCopy p.id p.normalizedVersion] [])
  | unsaved {content : ByteArray} {e : StorageError}
      (hc : s.validationFiles.find? p.fileKey = some content)
      (hs : s.fault? (.savePublicCopy p.id p.normalizedVersion content) ≠ none) :
      Publishing s p (.error (.storage e))
        (s.noted [.downloadValidationCopy p.id p.normalizedVersion,
          .savePublicCopy p.id p.normalizedVersion content] [])
  | takenBack {content : ByteArray} {e : RegistryError} {ls : List LogEntry}
      (hc : s.validationFiles.find? p.fileKey = some content) (hs : s.Copies p content)
      (hu : s.RefusesStatus p .available e)
      (hd : s.fault? (.deletePublicCopy p.id p.normalizedVersion) = none) :
      Publishing s p (.error (.publish p.text e))
        ((s.withPublicFiles ((s.publicFiles.insert p.fileKey content).erase p.fileKey)).noted
          [.downloadValidationCopy p.id p.normalizedVersion,
            .savePublicCopy p.id p.normalizedVersion content, .updateStatus p .available true,
            .deletePublicCopy p.id p.normalizedVersion] ls)
  | leftBehind {content : ByteArray} {e : RegistryError} {ls : List LogEntry}
      (hc : s.validationFiles.find? p.fileKey = some content)
      (hu : s.RefusesStatus p .available e)
      (hd : s.fault? (.deletePublicCopy p.id p.normalizedVersion) ≠ none) :
      Publishing s p (.error (.publish p.text e))
        ((s.withPublicFiles (s.publicFiles.insert p.fileKey content)).noted
          [.downloadValidationCopy p.id p.normalizedVersion,
            .savePublicCopy p.id p.normalizedVersion content, .updateStatus p .available true,
            .deletePublicCopy p.id p.normalizedVersion] ls)
  | published {content : ByteArray} {registry : Registry} {files : FileStore} {ls : List LogEntry}
      (hc : s.validationFiles.find? p.fileKey = some content)
      (hf : s.fault? (.updateStatus p .available true) = none)
      (hu : s.registry.updateStatus p .available true = .ok registry)
      (hv : files = s.validationFiles.erase p.fileKey ∨
        s.fault? (.deleteValidationCopy p.id p.normalizedVersion) ≠ none ∧
          files = s.validationFiles) :
      Publishing s p (.ok ())
        ((((s.withRegistry registry).withPublicFiles
            (s.publicFiles.insert p.fileKey content)).withValidationFiles files).noted
          [.downloadValidationCopy p.id p.normalizedVersion,
            .savePublicCopy p.id p.normalizedVersion content, .updateStatus p .available true,
            .deleteValidationCopy p.id p.normalizedVersion] ls)

theorem run_rollBack (cause : RegistryError) (s : Session) :
    ∃ ls, rollBack reconcileServices p cause s =
      match s.fault? (.deletePublicCopy p.id p.normalizedVersion) with
      | some _ => ((), s.noted [.deletePublicCopy p.id p.normalizedVersion] ls)
      | none => ((), (s.withPublicFiles (s.publicFiles.erase p.fileKey)).noted
          [.deletePublicCopy p.id p.normalizedVersion] ls) := by
  rw [rollBack, run_bind, run_deletePublicCopy]
  cases s.fault? (.deletePublicCopy p.id p.normalizedVersion) with
  | some f => exact ⟨_, by simp only [run_reconcileLog, noted_noted, List.append_nil]; rfl⟩
  | none => exact ⟨_, by simp only [run_reconcileLog, noted_noted, List.append_nil]; rfl⟩

theorem run_cleanUp (s : Session) :
    ∃ ls, cleanUp reconcileServices p s =
      match s.fault? (.deleteValidationCopy p.id p.normalizedVersion) with
      | some _ => ((), s.noted [.deleteValidationCopy p.id p.normalizedVersion] ls)
      | none => ((), (s.withValidationFiles (s.validationFiles.erase p.fileKey)).noted
          [.deleteValidationCopy p.id p.normalizedVersion] ls) := by
  rw [cleanUp, run_bind, run_deleteValidationCopy]
  cases s.fault? (.deleteValidationCopy p.id p.normalizedVersion) with
  | some f => exact ⟨_, by simp only [run_reconcileLog, noted_noted, List.append_nil]; rfl⟩
  | none => exact ⟨[], rfl⟩

/-- After the status could not be set, the copy is taken back or left behind. -/
theorem publishing_rollBack {s : Session} {content : ByteArray} {e : RegistryError}
    (hc : s.validationFiles.find? p.fileKey = some content) (hs : s.Copies p content)
    (hu : s.RefusesStatus p .available e) :
    Publishing s p (.error (.publish p.text e))
      (rollBack reconcileServices p e
        ((s.withPublicFiles (s.publicFiles.insert p.fileKey content)).noted
          [.downloadValidationCopy p.id p.normalizedVersion,
            .savePublicCopy p.id p.normalizedVersion content, .updateStatus p .available true]
          [])).2 := by
  obtain ⟨ls, hls⟩ := run_rollBack (p := p) e
    ((s.withPublicFiles (s.publicFiles.insert p.fileKey content)).noted
      [.downloadValidationCopy p.id p.normalizedVersion,
        .savePublicCopy p.id p.normalizedVersion content, .updateStatus p .available true] [])
  rw [hls]
  simp only [fault?_noted, fault?_withPublicFiles, withPublicFiles_noted, publicFiles_noted,
    publicFiles_withPublicFiles, noted_noted, List.cons_append, List.nil_append]
  cases hd : s.fault? (.deletePublicCopy p.id p.normalizedVersion) with
  | some f => exact .leftBehind hc hu (by simp [hd])
  | none => exact .takenBack hc hs hu hd

/-- After the status is set, the package is published, whether or not its validation copy goes. -/
theorem publishing_cleanUp {s : Session} {content : ByteArray} {registry : Registry}
    {ls : List LogEntry} (hc : s.validationFiles.find? p.fileKey = some content)
    (hf : s.fault? (.updateStatus p .available true) = none)
    (hu : s.registry.updateStatus p .available true = .ok registry) :
    Publishing s p (.ok ())
      (cleanUp reconcileServices p
        (((s.withPublicFiles (s.publicFiles.insert p.fileKey content)).withRegistry registry).noted
          [.downloadValidationCopy p.id p.normalizedVersion,
            .savePublicCopy p.id p.normalizedVersion content, .updateStatus p .available true]
          ls)).2 := by
  obtain ⟨ms, hms⟩ := run_cleanUp (p := p)
    (((s.withPublicFiles (s.publicFiles.insert p.fileKey content)).withRegistry registry).noted
      [.downloadValidationCopy p.id p.normalizedVersion,
        .savePublicCopy p.id p.normalizedVersion content, .updateStatus p .available true] ls)
  rw [hms]
  simp only [fault?_noted, fault?_withRegistry, fault?_withPublicFiles, withValidationFiles_noted,
    validationFiles_noted, validationFiles_withRegistry, validationFiles_withPublicFiles,
    noted_noted, List.cons_append, List.nil_append]
  cases hd : s.fault? (.deleteValidationCopy p.id p.normalizedVersion) with
  | some f => exact .published hc hf hu (.inr ⟨by simp [hd], rfl⟩)
  | none => exact .published hc hf hu (.inl rfl)

/-- Publishing stops at the first of its steps that fails. -/
theorem publishing (p : Package) (s : Session) :
    Publishing s p (publish reconcileServices p s).1 (publish reconcileServices p s).2 := by
  simp only [publish, run_bind, run_downloadValidationCopy]
  cases hd : s.fault? (.downloadValidationCopy p.id p.normalizedVersion) with
  | some f => exact .undownloaded (.inl (by simp [hd]))
  | none =>
    dsimp only
    cases hc : s.validationFiles.find? (p.id, p.normalizedVersion) with
    | none => exact .undownloaded (.inr hc)
    | some content =>
      simp only [run_bind, run_savePublicCopy, fault?_noted, publicFiles_noted,
        withPublicFiles_noted, noted_noted, List.append_nil, List.cons_append, List.nil_append]
      cases hs : s.fault? (.savePublicCopy p.id p.normalizedVersion content) with
      | some f => exact .unsaved hc (by simp [hs])
      | none =>
        simp only [run_bind, run_updateStatus, fault?_noted, registry_noted, fault?_withPublicFiles,
          registry_withPublicFiles, withRegistry_noted, noted_noted, List.append_nil,
          List.cons_append, List.nil_append]
        cases hu : s.fault? (.updateStatus p .available true) with
        | some f => exact publishing_rollBack hc ⟨hd, hs⟩ (.inl (by simp [hu]))
        | none =>
          dsimp only
          cases hr : s.registry.updateStatus p .available true with
          | error e => exact publishing_rollBack hc ⟨hd, hs⟩ (.inr hr)
          | ok registry =>
            simp only [run_bind, run_reconcileLog, noted_noted]
            exact publishing_cleanUp hc hu hr

/-! ### Transitions -/

/-- What applying a transition can leave of the package, answer and leave behind. -/
inductive Applying (s : Session) (policy : Policy) (set : ValidationSet) (p : Package) :
    Package → Except ReconcileError (Option Instant) → Session → Prop
  | unchanged (ht : nextTransition p.status (classify (policy.resolve set)) = .unchanged) :
      Applying s policy set p p (.ok none) s
  | unpublished {e : ReconcileError} {s' : Session}
      (ht : nextTransition p.status (classify (policy.resolve set)) = .promote)
      (hp : Publishing s p (.error e) s') : Applying s policy set p p (.error e) s'
  | promoted {s' : Session} {ls : List LogEntry}
      (ht : nextTransition p.status (classify (policy.resolve set)) = .promote)
      (hp : Publishing s p (.ok ()) s') :
      Applying s policy set p { p with status := .available } (.ok none)
        (s'.noted [.notify .published { p with status := .available }] ls)
  | unrejected {e : RegistryError}
      (ht : nextTransition p.status (classify (policy.resolve set)) = .reject)
      (hu : s.RefusesStatus p .failedValidation e) :
      Applying s policy set p p (.error (.registry e))
        (s.noted [.updateStatus p .failedValidation true] [])
  | rejected {registry : Registry} {notice : Notice} {ls : List LogEntry}
      (ht : nextTransition p.status (classify (policy.resolve set)) = .reject)
      (hn : notice = if rejectedOnlyBecauseSigned (policy.resolve set) then .signedValidationFailed
        else .validationFailed)
      (hf : s.fault? (.updateStatus p .failedValidation true) = none)
      (hu : s.registry.updateStatus p .failedValidation true = .ok registry) :
      Applying s policy set p { p with status := .failedValidation } (.ok none)
        ((s.withRegistry registry).noted [.updateStatus p .failedValidation true,
          .notify notice { p with status := .failedValidation }] ls)
  | beyond (ht : nextTransition p.status (classify (policy.resolve set)) = .awaitRecheck) :
      Applying s policy set p p (.error .beyondLastInstant) s
  | unscheduled {t : Instant} {e : SchedulerError}
      (ht : nextTransition p.status (classify (policy.resolve set)) = .awaitRecheck)
      (hf : s.fault? (.scheduleRecheck (.recheck set p) t) ≠ none) :
      Applying s policy set p p (.error (.scheduler e))
        (s.noted [.scheduleRecheck (.recheck set p) t] [])
  | scheduled {t : Instant} {ls : List LogEntry}
      (ht : nextTransition p.status (classify (policy.resolve set)) = .awaitRecheck)
      (hf : s.fault? (.scheduleRecheck (.recheck set p) t) = none) :
      Applying s policy set p p (.ok (some t)) (s.noted [.scheduleRecheck (.recheck set p) t] ls)

theorem run_tellOwner (notice : Notice) (p : Package) (s : Session) :
    ∃ ls, tellOwner reconcileServices notice p s = ((), s.noted [.notify notice p] ls) := by
  rw [tellOwner, run_bind, run_notify]
  cases s.fault? (.notify notice p) with
  | some f => exact ⟨_, by simp only [run_reconcileLog, noted_noted, List.append_nil]; rfl⟩
  | none => exact ⟨[], rfl⟩

theorem applying_promote {s : Session}
    (ht : nextTransition p.status (classify (policy.resolve set)) = .promote) :
    Applying s policy set p (promote reconcileServices p s).1.1 (promote reconcileServices p s).1.2
      (promote reconcileServices p s).2 := by
  have hpub := publishing p s
  simp only [promote, run_bind]
  generalize publish reconcileServices p s = x at hpub ⊢
  obtain ⟨answer, s'⟩ := x
  cases answer with
  | error e => exact .unpublished ht hpub
  | ok =>
    obtain ⟨ls, hls⟩ := run_tellOwner .published { p with status := .available } s'
    simp only [run_bind, run_pure, hls]
    exact .promoted ht hpub

theorem applying_reject {s : Session}
    (ht : nextTransition p.status (classify (policy.resolve set)) = .reject) :
    Applying s policy set p (reject reconcileServices (policy.resolve set) p s).1.1
      (reject reconcileServices (policy.resolve set) p s).1.2
      (reject reconcileServices (policy.resolve set) p s).2 := by
  simp only [reject, run_bind, run_updateStatus]
  cases hf : s.fault? (.updateStatus p .failedValidation true) with
  | some f => exact .unrejected ht (.inl (by simp [hf]))
  | none =>
    dsimp only
    cases hr : s.registry.updateStatus p .failedValidation true with
    | error e => exact .unrejected ht (.inr hr)
    | ok registry =>
      obtain ⟨ls, hls⟩ := run_tellOwner
        (if rejectedOnlyBecauseSigned (policy.resolve set) then .signedValidationFailed
          else .validationFailed)
        { p with status := .failedValidation }
        ((s.withRegistry registry).noted [.updateStatus p .failedValidation true] [])
      simp only [run_bind, run_pure, hls, noted_noted]
      exact .rejected ht rfl hf hr

theorem applying_awaitRecheck {s : Session}
    (ht : nextTransition p.status (classify (policy.resolve set)) = .awaitRecheck) :
    Applying s policy set p (awaitRecheck reconcileServices policy set (policy.resolve set) p s).1.1
      (awaitRecheck reconcileServices policy set (policy.resolve set) p s).1.2
      (awaitRecheck reconcileServices policy set (policy.resolve set) p s).2 := by
  simp only [awaitRecheck, run_bind, run_now]
  cases s.clock.add? (recheckPeriod (policy.resolve set) policy.defaultRecheckPeriod) with
  | none => exact .beyond ht
  | some t =>
    simp only [run_bind, run_scheduleRecheck]
    cases hf : s.fault? (.scheduleRecheck (.recheck set p) t) with
    | some f => exact .unscheduled ht (by simp [hf])
    | none =>
      simp only [run_bind, run_reconcileLog, run_pure, noted_noted]
      exact .scheduled ht hf

theorem applying (policy : Policy) (set : ValidationSet) (p : Package) (s : Session) :
    Applying s policy set p
      (applyTransition reconcileServices policy set (policy.resolve set) p s).1.1
      (applyTransition reconcileServices policy set (policy.resolve set) p s).1.2
      (applyTransition reconcileServices policy set (policy.resolve set) p s).2 := by
  rw [applyTransition]
  cases ht : nextTransition p.status (classify (policy.resolve set)) with
  | promote => exact applying_promote ht
  | reject => exact applying_reject ht
  | awaitRecheck => exact applying_awaitRecheck ht
  | unchanged => exact .unchanged ht

/-! ### Sets and messages -/

/-- What reconciling a set with its package can leave of the package, answer and leave behind. -/
inductive Processing (s : Session) (policy : Policy) (set : ValidationSet) (p : Package) :
    Package → Except ReconcileError ReconcileOutcome → Session → Prop
  | beyond {after : Package} {s' : Session} {ls : List LogEntry}
      (ha : Applying (s.noted [] ls) policy set p after (.error .beyondLastInstant) s') :
      Processing s policy set p after (.error .beyondLastInstant) s'
  | reported {after : Package} {answer : Except ReconcileError (Option Instant)} {s' : Session}
      {ls ms : List LogEntry} {ts : List Telemetry} (hne : answer ≠ .error .beyondLastInstant)
      (ha : Applying (s.noted [] ls) policy set p after answer s')
      (hts : ts = if after.status = p.status then [] else [.statusChange p.status after.status]) :
      Processing s policy set p after
        (answer.map fun recheckAt =>
          ⟨p.status, after.status, classify (policy.resolve set), recheckAt⟩)
        (((s'.reporting [.totalDuration (s'.clock.since set.created)
          (after.status == .available)]).noted [] ms).reporting ts)

theorem run_logAll (l : List LogEntry) (s : Session) :
    logAll reconcileServices l s = ((), s.noted [] l) := by
  induction l generalizing s with
  | nil => rw [logAll, run_pure, noted_nil]
  | cons e l ih =>
    rw [logAll, run_bind, run_reconcileLog, ih, noted_noted, List.append_nil,
      List.singleton_append]

theorem run_reportStatus (set : ValidationSet) (old : PackageStatus) (after : Package)
    (s : Session) :
    ∃ ms, reportStatus reconcileServices set old after s =
      ((), (s.noted [] ms).reporting
        (if after.status = old then [] else [.statusChange old after.status])) := by
  rw [reportStatus]
  split
  · rename_i hne
    rw [bne_iff_ne] at hne
    rw [if_neg hne]
    simp only [run_bind, run_reconcileLog, run_reconcileReport]
    exact ⟨_, rfl⟩
  · rename_i heq
    rw [bne_iff_ne, Decidable.not_not] at heq
    rw [if_pos heq]
    exact ⟨[], by rw [run_pure, noted_nil, reporting_nil]⟩

theorem processing (policy : Policy) (set : ValidationSet) (p : Package) (s : Session) :
    Processing s policy set p (process policy set p s).1.1 (process policy set p s).1.2
      (process policy set p s).2 := by
  simp only [process, processOutcome, settleOutcome, run_bind, run_logAll, run_reconcileLog,
    noted_noted, List.append_nil]
  generalize policy.missingPolicyLogs set ++ _ = ls
  have happly := applying policy set p (s.noted [] ls)
  generalize applyTransition reconcileServices policy set (policy.resolve set) p
    (s.noted [] ls) = x at happly ⊢
  obtain ⟨⟨after, answer⟩, s'⟩ := x
  dsimp only at happly ⊢
  obtain ⟨ms, hms⟩ := run_reportStatus set p.status after
    (s'.reporting [.totalDuration (s'.clock.since set.created) (after.status == .available)])
  cases answer with
  | ok t =>
    simp only [run_bind, run_now, run_reconcileReport, run_pure, hms]
    exact .reported nofun happly rfl
  | error e =>
    cases e with
    | beyondLastInstant => exact .beyond happly
    | _ =>
      simp only [run_bind, run_now, run_reconcileReport, run_pure, hms]
      exact .reported (by simp) happly rfl

/-- What handling a validation message can answer and leave behind. -/
inductive Handling (s : Session) (policy : Policy) (m : ValidationMessage) :
    Except ReconcileError ReconcileOutcome → Session → Prop
  | unread {c : Call} {cs : List Call} (hc : c ∈ cs) (hf : s.fault? c ≠ none)
      (hcs : ∀ c ∈ cs, c.findsOutcome = true) (e : RegistryError) :
      Handling s policy m (.error (.registry e)) (s.noted cs [])
  | unknownSet (hset : s.registry.validationSets.find? m.trackingId = none) :
      Handling s policy m (.error (.validationSetNotFound m.trackingId))
        (s.noted [.validationSet m.trackingId] [])
  | unknownPackage {set : ValidationSet}
      (hset : s.registry.validationSets.find? m.trackingId = some set)
      (hp : s.registry.package? set.packageId set.packageNormalizedVersion = none) :
      Handling s policy m (.error (.packageNotFound set.packageId set.packageNormalizedVersion))
        (s.noted [.validationSet m.trackingId,
          .package set.packageId set.packageNormalizedVersion] [])
  | processed {set : ValidationSet} {p after : Package}
      {answer : Except ReconcileError ReconcileOutcome} {s' : Session}
      (hset : s.registry.validationSets.find? m.trackingId = some set)
      (hp : s.registry.package? set.packageId set.packageNormalizedVersion = some p)
      (h : Processing (s.noted [.validationSet m.trackingId,
        .package set.packageId set.packageNormalizedVersion] []) policy set p after answer s') :
      Handling s policy m answer s'

theorem handling (policy : Policy) (m : ValidationMessage) (s : Session) :
    Handling s policy m (handle policy m s).1 (handle policy m s).2 := by
  simp only [handle, handleMessage, run_bind, run_validationSet]
  cases hfs : s.fault? (.validationSet m.trackingId) with
  | some f =>
    exact .unread (c := .validationSet m.trackingId) (by simp) (by simp [hfs])
      (by simp [Call.findsOutcome]) _
  | none =>
    dsimp only
    cases hset : s.registry.validationSets.find? m.trackingId with
    | none => exact .unknownSet hset
    | some set =>
      simp only [run_bind, run_package, fault?_noted, registry_noted, noted_noted]
      cases hfp : s.fault? (.package set.packageId set.packageNormalizedVersion) with
      | some f =>
        exact .unread (c := .package set.packageId set.packageNormalizedVersion) (by simp)
          (by simp [hfp]) (by simp [Call.findsOutcome]) _
      | none =>
        dsimp only
        cases hp : s.registry.package? set.packageId set.packageNormalizedVersion with
        | none => exact .unknownPackage hset hp
        | some p =>
          exact .processed hset hp (processing policy set p (s.noted [.validationSet m.trackingId,
            .package set.packageId set.packageNormalizedVersion] []))

end Session

end Admission
