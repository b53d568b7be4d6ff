import Admission.Proofs.Content
import Admission.Proofs.Lifecycle
import Admission.Proofs.Session.Record
import Admission.Proofs.Trust.Effect
import Admission.Proofs.Trust.Rounds

/-!
What fails leaves next to nothing behind. A verification result that is not saved leaves a session
that is like one in which nobody has tried, so whatever comes later comes out the same
(`Alike.rounds`). A reconciliation that ends in an error is undone: the registry and the validation
copies are as they were, nobody has been told, and of the public files only the copy of the package
itself may have changed (`Undone`).
-/

namespace Admission

namespace Session

variable {s s' s'' : Session} {policy : Policy} {set : ValidationSet} {m : ValidationMessage}
  {p after : Package}

/-! ### Results that are not saved -/

/-- A verification result that is not saved leaves the registry as it is, and nothing is reported of
    it. Whatever happens then, be it that the failures go away, saving it again comes out as if
    nobody had tried before, with the same answer, the same registry and the same on record. -/
theorem save_leaves_no_trace (s : Session) (maximum : UInt32) (m : CertificateMessage)
    (result : VerificationResult) (h : (save maximum m result s).1 ≠ .ok true) :
    let again : Round := .work (.save maximum m result)
    let s' := (save maximum m result s).2
    s'.registry = s.registry ∧ s'.metrics = s.metrics ∧
      (∀ c ∈ s.callsIn again, c.reportsTrust = false) ∧
        ∀ ts : List Round,
          (save maximum m result (s'.rounds ts)).1 = (save maximum m result (s.rounds ts)).1 ∧
            ((s'.rounds ts).round again).registry = ((s.rounds ts).round again).registry ∧
              (s'.rounds ts).recordedIn again = (s.rounds ts).recordedIn again := by
  intro again s'
  obtain ⟨cs, ls, hs', hcs⟩ := (saving maximum m result s).noted_of_ne h
  replace hs' : s' = s.noted cs ls := hs'
  have hcalls : s.callsIn again = cs := callsIn_eq (congrArg Session.calls hs')
  rw [hs']
  refine ⟨rfl, rfl, hcalls ▸ hcs, fun ts => ?_⟩
  have halike : ((s.noted cs ls).rounds ts).Alike (s.rounds ts) := (alike_noted s cs ls).rounds ts
  exact ⟨halike.answer (oblivious_save maximum m result), (halike.round again).registry,
    halike.recordedIn again⟩

/-- The entangled session, where nothing can be committed. -/
def entangledBusy : Session :=
  { Session.entangled with faults := [("commit", ⟨.conflict, "busy"⟩)] }

theorem save_leaves_no_trace_busy :
    let again : Round := .work (.save 5 ⟨1, .ofDigit 1⟩ .invalid)
    let s' := (save 5 ⟨1, .ofDigit 1⟩ .invalid entangledBusy).2
    let freed : List Round := [.work (.setFaults [])]
    (save 5 ⟨1, .ofDigit 1⟩ .invalid entangledBusy).1 ≠ .ok true ∧ s'.registry = .entangled ∧
      (save 5 ⟨1, .ofDigit 1⟩ .invalid (s'.rounds freed)).1 = .ok true ∧
        ((s'.rounds freed).callsIn again).map Call.name =
          ["find_pending_attempt", "get_certificate", "load_trust_graph", "commit",
            "record_signature_invalidated", "record_signature_invalidated",
            "record_signature_invalidated"] := by
  intro again s' freed
  have hne : (save 5 ⟨1, .ofDigit 1⟩ .invalid entangledBusy).1 ≠ .ok true :=
    mt saves_iff.2 (by decide +kernel)
  have hanswer : (save 5 ⟨1, .ofDigit 1⟩ .invalid (entangledBusy.rounds freed)).1 = .ok true :=
    saves_iff.1 (by decide +kernel)
  have hcalls : ((entangledBusy.rounds freed).callsIn again).map Call.name =
      ["find_pending_attempt", "get_certificate", "load_trust_graph", "commit",
        "record_signature_invalidated", "record_signature_invalidated",
        "record_signature_invalidated"] := by decide +kernel
  obtain ⟨hr, -, -, hagain⟩ := save_leaves_no_trace entangledBusy 5 ⟨1, .ofDigit 1⟩ .invalid hne
  obtain ⟨hanswer', -, hrecorded⟩ := hagain freed
  rw [recordedIn, recordedIn, Prod.mk.injEq] at hrecorded
  exact ⟨hne, hr, hanswer'.trans hanswer, (congrArg _ hrecorded.1).trans hcalls⟩

/-! ### Reconciliations that end in an error -/

/-- A reconciliation of a package has been undone. Only the public copy of the package itself may
    be another than before, and if there was none before, then only because it could not be deleted
    again. -/
structure Undone (s : Session) (p : Package) (s' : Session) : Prop where
  registry : s'.registry = s.registry
  validationFiles : s'.validationFiles = s.validationFiles
  faults : s'.faults = s.faults
  unannounced : s.CallsOnly (·.announces = false) s'
  elsewhere : ∀ k, k ≠ p.fileKey → s'.publicFiles.find? k = s.publicFiles.find? k
  publicFiles : s.publicFiles.contains p.fileKey = false →
    s.fault? (.deletePublicCopy p.id p.normalizedVersion) = none → s'.publicFiles = s.publicFiles

theorem undone_noted {cs : List Call} (ls : List LogEntry) (hcs : ∀ c ∈ cs, c.announces = false) :
    s.Undone p (s.noted cs ls) :=
  ⟨rfl, rfl, rfl, callsOnly_noted ls hcs, fun _ _ => rfl, fun _ _ => rfl⟩

theorem undone_logged (ls : List LogEntry) : s.Undone p (s.noted [] ls) :=
  undone_noted ls (List.forall_mem_nil _)

theorem undone_reporting {ts : List Telemetry} (hts : ∀ t ∈ ts, (Call.report t).announces = false) :
    s.Undone p (s.reporting ts) :=
  ⟨rfl, rfl, rfl, callsOnly_reporting hts, fun _ _ => rfl, fun _ _ => rfl⟩

theorem Undone.trans (h : s.Undone p s') (h' : s'.Undone p s'') : s.Undone p s'' where
  registry := h'.registry.trans h.registry
  validationFiles := h'.validationFiles.trans h.validationFiles
  faults := h'.faults.trans h.faults
  unannounced := h.unannounced.trans h'.unannounced
  elsewhere k hk := (h'.elsewhere k hk).trans (h.elsewhere k hk)
  publicFiles hp hf := by
    have heq := h.publicFiles hp hf
    rw [← heq] at hp ⊢
    refine h'.publicFiles hp ?_
    rwa [fault?, h.faults]

theorem Publishing.undone {e : ReconcileError} (h : Publishing s p (.error e) s') :
    s.Undone p s' := by
  cases h with
  | undownloaded => exact undone_noted _ (by simp [Call.announces])
  | unsaved => exact undone_noted _ (by simp [Call.announces])
  | @takenBack content =>
    refine ⟨rfl, rfl, rfl, callsOnly_noted _ (by simp [Call.announces]), ?_, ?_⟩
    · intro k hk
      show ((s.publicFiles.insert p.fileKey content).erase p.fileKey).find? k = _
      rw [SortedMap.find?_erase, if_neg hk, SortedMap.find?_insert_of_ne _ _ hk]
    · intro hp _
      exact SortedMap.erase_insert hp
  | leftBehind _ _ hd =>
    refine ⟨rfl, rfl, rfl, callsOnly_noted _ (by simp [Call.announces]), ?_, ?_⟩
    · intro k hk
      exact SortedMap.find?_insert_of_ne _ _ hk
    · intro _ hf
      exact absurd hf hd

/-- After a transition that fails the caller has the package as before, too. -/
theorem Applying.undone {e : ReconcileError} (h : Applying s policy set p after (.error e) s') :
    after = p ∧ s.Undone p s' := by
  cases h with
  | unpublished _ hp => exact ⟨rfl, hp.undone⟩
  | unrejected => exact ⟨rfl, undone_noted _ (by simp [Call.announces])⟩
  | beyond =>
    have hself := undone_logged (s := s) (p := p) []
    rw [noted_nil] at hself
    exact ⟨rfl, hself⟩
  | unscheduled => exact ⟨rfl, undone_noted _ (by simp [Call.announces])⟩

/-- How long it took is reported even so, but no change of status. -/
theorem Processing.undone {answer : Except ReconcileError ReconcileOutcome} {e : ReconcileError}
    (h : Processing s policy set p after answer s') (he : answer = .error e) : s.Undone p s' := by
  cases h with
  | beyond ha => exact (undone_logged _).trans ha.undone.2
  | @reported answered _ _ ms _ _ ha hts =>
    cases answered with
    | ok => cases he
    | error e =>
      obtain ⟨rfl, hundone⟩ := ha.undone
      rw [if_pos rfl] at hts
      subst hts
      rw [reporting_nil]
      exact (((undone_logged _).trans hundone).trans
        (undone_reporting (by simp [Call.announces]))).trans (undone_logged ms)

/-- A message whose handling fails is about no package that could be found, or what was done about
    its package is undone. -/
theorem Handling.undone {e : ReconcileError} (h : Handling s policy m (.error e) s') :
    (∃ cs, s' = s.noted cs [] ∧ ∀ c ∈ cs, c.announces = false) ∨
      ∃ p, s.registry.subject? m = some p ∧ s.Undone p s' := by
  cases h with
  | unread _ _ hcs =>
    exact .inl ⟨_, rfl, fun c hc => (Call.silent_of_findsOutcome (hcs c hc)).1⟩
  | unknownSet => exact .inl ⟨_, rfl, by simp [Call.announces]⟩
  | unknownPackage => exact .inl ⟨_, rfl, by simp [Call.announces]⟩
  | processed hset hp hproc =>
    refine .inr ⟨_, Registry.subject?_eq_some hset hp, ?_⟩
    exact (undone_noted [] (by simp [Call.announces])).trans (hproc.undone rfl)

/-- A reconciliation that ends in an error has done nothing but what is undone: the registry and the
    validation copies are as before, and neither a notice nor a change of status has gone out. The
    public files are as before but for the copy of the package that the message is about, and for
    that one too if there was none and nothing kept it from being deleted. -/
theorem handle_undone (s : Session) (policy : Policy) (m : ValidationMessage) (e : ReconcileError)
    (h : (handle policy m s).1 = .error e) :
    let s' := (handle policy m s).2
    s'.registry = s.registry ∧ s'.validationFiles = s.validationFiles ∧
      (∀ c ∈ s.callsOf (.handle policy m), c.announces = false) ∧
        (∀ k, (∀ p, s.registry.subject? m = some p → k ≠ p.fileKey) →
          s'.publicFiles.find? k = s.publicFiles.find? k) ∧
          ∀ p, s.registry.subject? m = some p → s.publicFiles.contains p.fileKey = false →
            s.fault? (.deletePublicCopy p.id p.normalizedVersion) = none →
              s'.publicFiles = s.publicFiles := by
  intro s'
  have hhandle := handling policy m s
  rw [h] at hhandle
  show _ ∧ _ ∧ (∀ c ∈ s'.calls.drop s.calls.length, c.announces = false) ∧ _
  rcases hhandle.undone with ⟨cs, hs', hcs⟩ | ⟨p, hp, hundone⟩
  · replace hs' : s' = s.noted cs [] := hs'
    rw [hs']
    exact ⟨rfl, rfl, (callsOnly_noted [] hcs).drop, fun _ _ => rfl, fun _ _ _ _ => rfl⟩
  · refine ⟨hundone.registry, hundone.validationFiles, hundone.unannounced.drop, ?_, ?_⟩
    · intro k hk
      exact hundone.elsewhere k (hk p hp)
    · intro q hq
      obtain rfl := Option.some.inj (hp.symm.trans hq)
      exact hundone.publicFiles

/-- The twins, where the status of a package cannot be set. -/
def twinsBusy : Session :=
  { Session.twinsAwaiting with faults := [("update_package_status", ⟨.conflict, "busy"⟩)] }

theorem handle_undone_twins :
    let p : Package := ⟨2, "Beta", "1.0", "1.0.0", .validating⟩
    let m : ValidationMessage := ⟨.ofDigit 1, "beta", "1.0"⟩
    let s' := (handle (.new .zero 3) m twinsBusy).2
    (handle (.new .zero 3) m twinsBusy).1 =
        .error (.publish "Beta 1.0.0" (.conflict (.other "busy"))) ∧
      twinsBusy.registry.subject? m = some p ∧
        (twinsBusy.callsOf (.handle (.new .zero 3) m)).map Call.name =
          ["get_validation_set", "get_package", "download_validation_copy", "save_public_copy",
            "update_package_status", "delete_public_copy", "record_total_duration"] ∧
          s'.registry = twinsBusy.registry ∧ s'.validationFiles = twinsBusy.validationFiles ∧
            s'.publicFiles = twinsBusy.publicFiles := by
  intro p m s'
  have h : (handle (.new .zero 3) m twinsBusy).1 =
      .error (.publish "Beta 1.0.0" (.conflict (.other "busy"))) := by rfl
  have hp : twinsBusy.registry.subject? m = some p := by decide +kernel
  have hcalls : (twinsBusy.callsOf (.handle (.new .zero 3) m)).map Call.name =
      ["get_validation_set", "get_package", "download_validation_copy", "save_public_copy",
        "update_package_status", "delete_public_copy", "record_total_duration"] := by
    decide +kernel
  have hnone : twinsBusy.publicFiles.contains p.fileKey = false := by decide +kernel
  obtain ⟨hr, hv, -, -, hfiles⟩ := handle_undone twinsBusy (.new .zero 3) m _ h
  exact ⟨h, hp, hcalls, hr, hv, hfiles p hp hnone rfl⟩

end Session

end Admission
