import Admission.Proofs.Session.Services
import Admission.Proofs.Trust.Planning

/-!
What saving a verification result can come to in a session. Reading either ends in a failure made
for one of its calls or answers the plan of the registry (`reading`); committing puts the plan's
changes in and reports them, or leaves the registry alone (`committing`); and there is nothing else
that saving a result can do (`saving`).
-/

namespace Admission

/-- What is reported once a plan is committed. -/
def TrustPlan.reports (plan : TrustPlan) : List Telemetry :=
  (if plan.alert then [.certificateAlert plan.changes.certificate] else []) ++
    plan.changes.invalidatedSignatures.map .signatureInvalidated

/-- Whether a call only asks the registry for what bears on a verification result. -/
def Call.readsTrust : Call → Bool
  | .pendingAttempt .. | .certificate _ | .trustGraph _ => true
  | _ => false

namespace Session

variable {maximum : UInt32} {m : CertificateMessage} {result : VerificationResult}

/-! ### Reading -/

/-- What reading for a verification result can answer and leave behind. -/
inductive Reading (s : Session) (maximum : UInt32) (m : CertificateMessage)
    (result : VerificationResult) : Except TrustError (Option TrustPlan) → Session → Prop
  | failed {c : Call} {cs : List Call} {ls : List LogEntry} (hc : c ∈ cs) (hf : s.fault? c ≠ none)
      (hcs : ∀ c ∈ cs, c.readsTrust = true) (e : RegistryError) :
      Reading s maximum m result (.error (.registry e)) (s.noted cs ls)
  | planned {cs : List Call} {ls : List LogEntry} (hcs : ∀ c ∈ cs, c.readsTrust = true) :
      Reading s maximum m result (.ok (s.registry.plan? maximum m result)) (s.noted cs ls)

theorem run_findVerification (s : Session) :
    findVerification trustServices m s =
      match s.fault? (.pendingAttempt m.certificateKey m.validationId) with
      | some f => (.error (.registry f.registryError),
          s.noted [.pendingAttempt m.certificateKey m.validationId] [])
      | none => (.ok (s.registry.pendingAttempt? m.certificateKey m.validationId),
          s.noted [.pendingAttempt m.certificateKey m.validationId] []) := by
  rw [findVerification, run_bind, run_pendingAttempt]
  cases s.fault? (.pendingAttempt m.certificateKey m.validationId) <;> rfl

theorem run_logIndeterminate (maximum : UInt32) (result : VerificationResult) (j : Judgement)
    (s : Session) :
    ∃ ls, logIndeterminate trustServices maximum result j s = ((), s.noted [] ls) := by
  rw [logIndeterminate]
  split
  · exact ⟨_, run_log _ s⟩
  · exact ⟨[], by rw [run_pure, noted_nil]⟩

theorem run_completePlan (cert : Certificate) (att : VerificationAttempt) (s : Session) :
    completePlan trustServices (judge maximum cert att result) s =
      match result.rule? with
      | none => (.ok (s.registry.planFor maximum cert att result), s)
      | some _ =>
        match s.fault? (.trustGraph cert.key) with
        | some f => (.error (.registry f.registryError), s.noted [.trustGraph cert.key] [])
        | none => (.ok (s.registry.planFor maximum cert att result),
            s.noted [.trustGraph cert.key]
              [(s.registry.loadTrustGraph cert.key).loadedLog cert.key]) := by
  rw [completePlan, judge_cascade, Registry.planFor, Registry.cascadeFor]
  cases result.rule? with
  | none => rfl
  | some rule =>
    simp only [run_bind, run_trustGraph, judge_certificate_key]
    cases s.fault? (.trustGraph cert.key) <;> rfl

/-- Once attempt and certificate are found, only loading the trust graph can still fail. -/
theorem reading_judged {s : Session} {cert : Certificate} {att : VerificationAttempt}
    (hp : s.registry.plan? maximum m result = some (s.registry.planFor maximum cert att result))
    {cs : List Call} (hcs : ∀ c ∈ cs, c.readsTrust = true)
    {x : Except TrustError (Option TrustPlan) × Session}
    (hx : x = (do
      logIndeterminate trustServices maximum result (judge maximum cert att result)
      return (← completePlan trustServices (judge maximum cert att result)).map some :
        StateM Session _) (s.noted cs [])) :
    Reading s maximum m result x.1 x.2 := by
  obtain ⟨ls, hls⟩ := run_logIndeterminate maximum result (judge maximum cert att result)
    (s.noted cs [])
  rw [hx]
  simp only [run_bind, hls, run_completePlan, noted_noted, fault?_noted, registry_noted]
  cases result.rule? with
  | none =>
    simp only [run_pure, Except.map]
    rw [← hp]
    exact .planned (by simpa using hcs)
  | some rule =>
    have hcs' : ∀ c ∈ cs ++ [] ++ [.trustGraph cert.key], c.readsTrust = true := by
      simpa [or_imp, forall_and, Call.readsTrust] using hcs
    cases hf : s.fault? (.trustGraph cert.key) with
    | some f =>
      simp only [run_pure, Except.map]
      exact .failed (c := .trustGraph cert.key) (by simp) (by simp [hf]) hcs' _
    | none =>
      simp only [run_pure, Except.map]
      rw [← hp]
      exact .planned hcs'

/-- Reading fails by a failure made for one of its calls, or it answers the registry's plan. -/
theorem reading (maximum : UInt32) (m : CertificateMessage) (result : VerificationResult)
    (s : Session) :
    Reading s maximum m result (planResult trustServices maximum m result s).1
      (planResult trustServices maximum m result s).2 := by
  simp only [planResult, run_bind, run_findVerification]
  cases hfa : s.fault? (.pendingAttempt m.certificateKey m.validationId) with
  | some f =>
    exact .failed (c := .pendingAttempt m.certificateKey m.validationId) (by simp) (by simp [hfa])
      (by simp [Call.readsTrust]) _
  | none =>
    dsimp only
    cases ha : s.registry.pendingAttempt? m.certificateKey m.validationId with
    | none =>
      have hplan : s.registry.plan? maximum m result = none := by rw [Registry.plan?, ha]; rfl
      simp only [run_bind, run_trustLog, run_pure, noted_noted]
      rw [← hplan]
      exact .planned (by simp [Call.readsTrust])
    | some att =>
      simp only [run_bind, run_certificate, fault?_noted, registry_noted, noted_noted]
      cases hfc : s.fault? (.certificate att.certificateKey) with
      | some f =>
        exact .failed (c := .certificate att.certificateKey) (by simp) (by simp [hfc])
          (by simp [Call.readsTrust]) _
      | none =>
        dsimp only
        cases hc : s.registry.certificates.find? att.certificateKey with
        | none =>
          have hplan : s.registry.plan? maximum m result = none := by
            rw [Registry.plan?, ha, Option.bind_some, hc]; rfl
          simp only [run_bind, run_trustLog, run_pure, noted_noted]
          rw [← hplan]
          exact .planned (by simp [Call.readsTrust])
        | some cert =>
          have hplan : s.registry.plan? maximum m result =
              some (s.registry.planFor maximum cert att result) := by
            rw [Registry.plan?, ha, Option.bind_some, hc]; rfl
          exact reading_judged hplan (by simp [Call.readsTrust]) rfl

/-! ### Committing -/

theorem run_reportInvalidated (l : List Signature) (s : Session) :
    reportInvalidated trustServices l s = ((), s.reporting (l.map .signatureInvalidated)) := by
  induction l generalizing s with
  | nil => rw [reportInvalidated, run_pure, List.map_nil, reporting_nil]
  | cons a l ih =>
    rw [reportInvalidated, run_bind, run_trustReport, ih, reporting_reporting, List.map_cons,
      List.singleton_append]

/-- What committing a plan can answer and leave behind. -/
inductive Committing (s : Session) (plan : TrustPlan) : Except TrustError Unit → Session → Prop
  | refused {e : RegistryError}
      (he : s.fault? (.commit plan.changes) ≠ none ∨ s.registry.commit plan.changes = .error e) :
      Committing s plan (.error (.commit plan.changes.certificate.key e))
        (s.noted [.commit plan.changes] [])
  | committed {ls : List LogEntry} {registry : Registry}
      (hf : s.fault? (.commit plan.changes) = none)
      (hr : s.registry.commit plan.changes = .ok registry) :
      Committing s plan (.ok ())
        (((s.withRegistry registry).noted [.commit plan.changes] ls).reporting plan.reports)

/-- A plan is committed whole and reported, or the registry stays as it was. -/
theorem committing (result : VerificationResult) (plan : TrustPlan) (s : Session) :
    Committing s plan (commitPlan trustServices result plan s).1
      (commitPlan trustServices result plan s).2 := by
  simp only [commitPlan, run_bind, run_commit]
  cases hf : s.fault? (.commit plan.changes) with
  | some f => exact .refused (.inl (by simp [hf]))
  | none =>
    dsimp only
    cases hr : s.registry.commit plan.changes with
    | error e => exact .refused (.inr hr)
    | ok registry =>
      simp only [run_bind, run_trustLog, noted_noted, List.append_nil, List.nil_append]
      have hdone (ls : List LogEntry) := @Committing.committed s plan ls registry hf hr
      cases ha : plan.alert with
      | true =>
        simp only [if_true, run_bind, run_trustReport, run_reportInvalidated, run_pure,
          reporting_reporting]
        simpa only [TrustPlan.reports, ha, if_true] using hdone [_]
      | false =>
        simp only [Bool.false_eq_true, if_false, run_bind, run_reportInvalidated, run_pure]
        simpa only [TrustPlan.reports, ha, Bool.false_eq_true, if_false, List.nil_append]
          using hdone [_]

/-! ### Both -/

/-- What saving a verification result can answer and leave behind. -/
inductive Saving (s : Session) (maximum : UInt32) (m : CertificateMessage)
    (result : VerificationResult) : Except TrustError Bool → Session → Prop
  | unread {c : Call} {cs : List Call} {ls : List LogEntry} (hc : c ∈ cs) (hf : s.fault? c ≠ none)
      (hcs : ∀ c ∈ cs, c.readsTrust = true) (e : RegistryError) :
      Saving s maximum m result (.error (.registry e)) (s.noted cs ls)
  | unresolved {cs : List Call} {ls : List LogEntry} (hcs : ∀ c ∈ cs, c.readsTrust = true)
      (hp : s.registry.plan? maximum m result = none) :
      Saving s maximum m result (.ok false) (s.noted cs ls)
  | refused {cs : List Call} {ls : List LogEntry} {plan : TrustPlan} {e : RegistryError}
      (hcs : ∀ c ∈ cs, c.readsTrust = true) (hp : s.registry.plan? maximum m result = some plan)
      (he : s.fault? (.commit plan.changes) ≠ none ∨ s.registry.commit plan.changes = .error e) :
      Saving s maximum m result (.error (.commit plan.changes.certificate.key e))
        (s.noted (cs ++ [.commit plan.changes]) ls)
  | saved {cs : List Call} {ls : List LogEntry} {plan : TrustPlan} {registry : Registry}
      (hcs : ∀ c ∈ cs, c.readsTrust = true) (hp : s.registry.plan? maximum m result = some plan)
      (hf : s.fault? (.commit plan.changes) = none)
      (hr : s.registry.commit plan.changes = .ok registry) :
      Saving s maximum m result (.ok true)
        (((s.withRegistry registry).noted (cs ++ [.commit plan.changes]) ls).reporting plan.reports)

theorem saving (maximum : UInt32) (m : CertificateMessage) (result : VerificationResult)
    (s : Session) :
    Saving s maximum m result (save maximum m result s).1 (save maximum m result s).2 := by
  have hread := reading maximum m result s
  simp only [save, saveResult, run_bind]
  generalize planResult trustServices maximum m result s = x at hread
  obtain ⟨a, s₁⟩ := x
  dsimp only at hread ⊢
  cases hread with
  | failed hc hf hcs e => exact .unread hc hf hcs e
  | @planned cs ls hcs =>
    cases hp : s.registry.plan? maximum m result with
    | none => exact .unresolved hcs hp
    | some plan =>
      have hcommit := committing result plan (s.noted cs ls)
      simp only [run_bind]
      generalize commitPlan trustServices result plan (s.noted cs ls) = y at hcommit
      obtain ⟨b, s₂⟩ := y
      dsimp only at hcommit ⊢
      cases hcommit with
      | refused he =>
        simp only [run_pure, noted_noted]
        exact .refused hcs hp he
      | committed hf hr =>
        simp only [run_pure, withRegistry_noted, noted_noted]
        exact .saved hcs hp hf hr

end Session

end Admission
