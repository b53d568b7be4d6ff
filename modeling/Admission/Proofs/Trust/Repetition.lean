import Admission.Proofs.Trust.Interleaving
import Admission.Proofs.Trust.Invalidations

/-!
A result that decides is decided once. The first time it comes it takes down every valid signature
it taints (`exhausted_put_planFor`); results for other certificates put none of them up again and
leave the certificate and its attempts as they are (`Bypassed`). So the same result for another
attempt finds nothing to take down and the certificate as it would leave it, and all it does is to
give that attempt its status (`save_again`).
-/

namespace Admission

section Judgements

variable {n₁ n₂ : UInt32} {cert : Certificate} {att₁ att₂ : VerificationAttempt}
  {result : VerificationResult}

/-- A result that decides gives an attempt its own status. -/
theorem judge_attempt (hr : result ≠ .unknown) :
    (judge n₁ cert att₁ result).attempt = { att₁ with status := some result.status } := by
  cases result with
  | unknown => exact absurd rfl hr
  | _ => rfl

/-- A result that decides does no more to a certificate the second time. -/
theorem judge_judge (hr : result ≠ .unknown) :
    judge n₂ (judge n₁ cert att₁ result).certificate att₂ result =
      ⟨(judge n₁ cert att₁ result).certificate, { att₂ with status := some result.status }, false,
        result.rule?⟩ := by
  cases result with
  | unknown => exact absurd rfl hr
  | _ => rfl

end Judgements

namespace Registry

variable {x y z : Registry} {c k : CertificateKey} {n n₁ n₂ : UInt32} {cert : Certificate}
  {att att₁ att₂ : VerificationAttempt} {m : CertificateMessage} {result : VerificationResult}

/-! ### Nothing left to take down -/

/-- No valid signature is left that a result for the certificate takes down. -/
def Exhausted (x : Registry) (c : CertificateKey) (result : VerificationResult) : Prop :=
  ∀ sig ∈ x.signatures.values, sig.status = .valid → x.taints c result sig = false

theorem exhausted_put_planFor (hx : x.Filed) :
    (x.put (x.planFor n cert att result).changes).Exhausted cert.key result := by
  intro sig hsig hv
  rw [values_signatures_put_planFor hx] at hsig
  obtain ⟨old, -, rfl⟩ := List.mem_map.1 hsig
  have hfields : (x.afterResult cert.key result old).key = old.key ∧ _ := x.afterResult_fields old
  rw [taints_congr (timestamps_put x _) hfields.1 hfields.2.2, Bool.eq_false_iff]
  intro ht
  rw [afterResult_status_iff.2 (.inr ht)] at hv
  cases hv

/-- What has fallen since was not valid any more, so nothing new is left. -/
theorem Exhausted.of_declines (h : x.Exhausted c result) (hx : x.Filed) (hy : y.Filed)
    (hd : x.Declines y) : y.Exhausted c result := by
  intro sig hsig hv
  have hold : x.signatures.find? sig.key = some sig :=
    hd.find?_of_valid (hy.signatures.mem_values_iff.1 hsig) hv
  rw [taints_congr hd.timestamps rfl rfl]
  exact h sig (hx.signatures.mem_values_iff.2 hold) hv

theorem Exhausted.cascadeFor_eq (h : x.Exhausted c result) (hx : x.Filed) :
    x.cascadeFor c result = ⟨[], []⟩ := by
  have hnone : (x.cascadeFor c result).invalidated = [] := by
    rw [invalidated_cascadeFor hx, List.map_eq_nil_iff, List.filter_eq_nil_iff]
    intro sig hsig hfalls
    obtain ⟨hv, ht⟩ := Bool.and_eq_true_iff.1 hfalls
    rw [h sig hsig (eq_of_beq hv)] at ht
    cases ht
  rw [cascadeFor] at hnone ⊢
  cases hrule : result.rule? with
  | none => rfl
  | some rule =>
    rw [hrule, Option.elim_some, TrustGraph.cascade_eq] at hnone
    dsimp only at hnone
    rw [Option.elim_some, TrustGraph.cascade_eq, hnone]
    rfl

/-! ### What results for other certificates leave -/

/-- A certificate and its attempts are as they were, and signatures have at most fallen. -/
structure Bypassed (k : CertificateKey) (x y : Registry) : Prop where
  declines : x.Declines y
  certificate : y.certificates.find? k = x.certificates.find? k
  attempts (id : Uuid) : y.attempts.find? (k, id) = x.attempts.find? (k, id)

theorem Bypassed.refl (k : CertificateKey) (x : Registry) : x.Bypassed k x :=
  ⟨.refl x, rfl, fun _ => rfl⟩

theorem Bypassed.trans (hxy : Bypassed k x y) (hyz : Bypassed k y z) : Bypassed k x z where
  declines := hxy.declines.trans hyz.declines
  certificate := hyz.certificate.trans hxy.certificate
  attempts id := (hyz.attempts id).trans (hxy.attempts id)

theorem bypassed_settle (hx : x.Filed) (hne : m.certificateKey ≠ k) :
    Bypassed k x (x.settle n m result) := by
  cases hp : x.plan? n m result with
  | none =>
    rw [settle, hp]
    exact .refl k x
  | some plan =>
    have hsettled : x.Settled (x.settle n m result) n m result := by
      rw [settle, hp]
      exact settled_put hx hp
    exact ⟨declines_settle hx m, hsettled.certificates k hne.symm, fun id =>
      hsettled.attempts (k, id) fun h => hne (congrArg Prod.fst h).symm⟩

/-! ### The same result again -/

/-- A certificate is on file as the result leaves it, and nothing is left to take down. -/
structure Decided (x : Registry) (result : VerificationResult) (cert : Certificate) : Prop where
  certificate : x.certificates.find? cert.key = some cert
  judged (n : UInt32) (att : VerificationAttempt) : judge n cert att result =
    ⟨cert, { att with status := some result.status }, false, result.rule?⟩
  exhausted : x.Exhausted cert.key result

theorem decided_put_planFor (hx : x.Filed) (hr : result ≠ .unknown) :
    (x.put (x.planFor n cert att result).changes).Decided result
      (judge n cert att result).certificate where
  certificate := by rw [find?_certificates_put_planFor, judge_certificate_key, if_pos rfl]
  judged n' att' := judge_judge hr
  exhausted := by
    rw [judge_certificate_key]
    exact exhausted_put_planFor hx

theorem Decided.of_bypassed (h : x.Decided result cert) (hx : x.Filed) (hy : y.Filed)
    (hxy : Bypassed cert.key x y) : y.Decided result cert where
  certificate := hxy.certificate.trans h.certificate
  judged := h.judged
  exhausted := h.exhausted.of_declines hx hy hxy.declines

theorem Decided.planFor_eq (h : x.Decided result cert) (hx : x.Filed) :
    x.planFor n cert att result =
      ⟨⟨cert, { att with status := some result.status }, [], []⟩, false⟩ := by
  rw [planFor, h.judged, h.exhausted.cascadeFor_eq hx]
  rfl

/-- The same result for another attempt changes that attempt alone. -/
theorem Decided.put_planFor (h : x.Decided result cert) (hx : x.Filed) :
    x.put (x.planFor n cert att result).changes =
      { x with attempts := x.attempts.insert att.fileKey
                { att with status := some result.status } } := by
  rw [h.planFor_eq hx, put]
  dsimp only [List.foldl_nil]
  rw [SortedMap.insert_eq_self h.certificate]
  rfl

/-- An attempt that is pending holds nothing but what the message says of it. -/
theorem Pending.eq (h : x.Pending m cert att) (hx : x.Filed) :
    att = ⟨m.validationId, m.certificateKey, none⟩ := by
  obtain ⟨id, key, status⟩ := att
  obtain ⟨rfl, rfl⟩ := Prod.mk.inj (hx.attempts.key_eq h.attempt)
  obtain rfl : status = none := h.undecided
  rfl

theorem Pending.find?_attempts_put_planFor_self (h : x.Pending m cert att) (hx : x.Filed)
    (hr : result ≠ .unknown) :
    (x.put (x.planFor n cert att result).changes).attempts.find?
        (m.certificateKey, m.validationId) =
      some ⟨m.validationId, m.certificateKey, some result.status⟩ := by
  rw [find?_attempts_put_planFor, if_pos (hx.attempts.key_eq h.attempt).symm, judge_attempt hr,
    h.eq hx]

theorem Pending.find?_attempts_put_planFor_of_ne (h : x.Pending m cert att) (hx : x.Filed)
    {a : AttemptKey} (hne : a ≠ (m.certificateKey, m.validationId)) :
    (x.put (x.planFor n cert att result).changes).attempts.find? a = x.attempts.find? a := by
  have hkey : att.fileKey = (m.certificateKey, m.validationId) := hx.attempts.key_eq h.attempt
  rw [find?_attempts_put_planFor, if_neg (hkey ▸ hne)]

end Registry

namespace Session

variable {s : Session} {maximum : UInt32} {m : CertificateMessage} {result : VerificationResult}

/-- Where no call is made to fail, what is planned is saved and reported. -/
theorem save_of_plan? (hf : s.registry.Filed) (hu : s.Untroubled) {plan : TrustPlan}
    (hp : s.registry.plan? maximum m result = some plan) :
    (save maximum m result s).1 = .ok true ∧
      (save maximum m result s).2.registry = s.registry.put plan.changes ∧
        ∃ cs, (save maximum m result s).2.calls = s.calls ++ (cs ++ plan.reports.map .report) ∧
          ∀ c ∈ cs, c.reportsTrust = false := by
  have hsave := saving maximum m result s
  generalize save maximum m result s = x at hsave ⊢
  obtain ⟨answer, s'⟩ := x
  dsimp only at hsave ⊢
  cases hsave with
  | unread _ hfail => exact absurd (hu _) hfail
  | unresolved _ hp' =>
    rw [hp] at hp'
    cases hp'
  | refused _ hp' he =>
    rw [Registry.commit_of_plan? hf hp'] at he
    exact he.elim (fun hfail => absurd (hu _) hfail) nofun
  | @saved cs _ plan' _ hcs hp' _ hr =>
    obtain rfl := Option.some.inj (hp.symm.trans hp')
    refine ⟨rfl, Registry.put_of_commit hr, cs ++ [.commit plan.changes], ?_, ?_⟩
    · exact List.append_assoc _ _ _
    · refine List.forall_mem_append.2 ⟨?_, by simp [Call.reportsTrust]⟩
      exact fun c hc => Call.reportsTrust_of_readsTrust (hcs c hc)

/-- Where no call is made to fail and there is no plan, nothing is saved and nothing reported. -/
theorem save_of_plan?_eq_none (hu : s.Untroubled)
    (hp : s.registry.plan? maximum m result = none) :
    (save maximum m result s).1 = .ok false ∧
      (save maximum m result s).2.registry = s.registry ∧
        s.Discreet (save maximum m result s).2 := by
  have hsave := saving maximum m result s
  generalize save maximum m result s = x at hsave ⊢
  obtain ⟨answer, s'⟩ := x
  dsimp only at hsave ⊢
  cases hsave with
  | unread _ hfail => exact absurd (hu _) hfail
  | unresolved hcs =>
    exact ⟨rfl, rfl, callsOnly_noted _ fun c hc => Call.reportsTrust_of_readsTrust (hcs c hc)⟩
  | refused _ hp' | saved _ hp' =>
    rw [hp] at hp'
    cases hp'

theorem untroubled_save (hu : s.Untroubled) : (save maximum m result s).2.Untroubled := by
  have hsave := saving maximum m result s
  generalize save maximum m result s = x at hsave ⊢
  obtain ⟨answer, s'⟩ := x
  cases hsave <;> exact hu

/-- What results for other certificates leave when they are saved one after another. -/
theorem bypassed_run {k : CertificateKey} {vs : List Verdict} (hf : s.registry.Filed)
    (hu : s.Untroubled) (hvs : ∀ v ∈ vs, v.message.certificateKey ≠ k) :
    (s.run (vs.map (·.work))).registry.Filed ∧ (s.run (vs.map (·.work))).Untroubled ∧
      Registry.Bypassed k s.registry (s.run (vs.map (·.work))).registry := by
  induction vs generalizing s with
  | nil => exact ⟨hf, hu, .refl k _⟩
  | cons v vs ih =>
    obtain ⟨hne, hvs⟩ := List.forall_mem_cons.1 hvs
    have hstep : Registry.Bypassed k s.registry (s.step v.work).registry := by
      rcases (registry_save v.maximum v.message v.result s).1 with hr | hr
      · rw [Verdict.work, step, hr]
        exact .refl k _
      · rw [Verdict.work, step, hr]
        exact Registry.bypassed_settle hf hne
    obtain ⟨hf', hu', hrest⟩ := ih (filed_step hf v.work) (untroubled_save hu) hvs
    exact ⟨hf', hu', hstep.trans hrest⟩

/-- A result other than unknown is saved for one attempt, then any results for other certificates.
    When it comes again for another pending attempt of the same certificate, it is saved, nothing
    is reported, and all that changes in the registry is that this attempt gets the status which
    the first one has. -/
theorem save_again (s : Session) (hf : s.registry.Filed) (hu : s.Untroubled) (k : CertificateKey)
    (a₁ a₂ : Uuid) (hne : a₁ ≠ a₂) (h₁ : s.registry.Resolves ⟨k, a₁⟩)
    (h₂ : s.registry.Resolves ⟨k, a₂⟩) (result : VerificationResult) (hr : result ≠ .unknown)
    (n₁ n₂ : UInt32) (vs : List Verdict) (hvs : ∀ v ∈ vs, v.message.certificateKey ≠ k) :
    let s' := s.run (.save n₁ ⟨k, a₁⟩ result :: vs.map (·.work))
    s'.registry.attempts.find? (k, a₁) = some ⟨a₁, k, some result.status⟩ ∧
      s'.registry.attempts.find? (k, a₂) = some ⟨a₂, k, none⟩ ∧
      (save n₂ ⟨k, a₂⟩ result s').1 = .ok true ∧
      (∀ c ∈ s'.callsOf (.save n₂ ⟨k, a₂⟩ result), c.reportsTrust = false) ∧
      (s'.step (.save n₂ ⟨k, a₂⟩ result)).registry =
        { s'.registry with
          attempts := s'.registry.attempts.insert (k, a₂) ⟨a₂, k, some result.status⟩ } := by
  intro s'
  obtain ⟨cert, att₁, hp₁⟩ := Registry.resolves_iff.1 h₁
  obtain ⟨cert', att₂, hp₂⟩ := Registry.resolves_iff.1 h₂
  obtain rfl : cert.key = k := hf.certificates.key_eq hp₁.certificate
  have hother : (cert.key, a₂) ≠ (cert.key, a₁) := fun h => hne (congrArg Prod.snd h).symm
  -- What the first time comes to, and what is left of that after the results in between.
  have hfirst : (s.step (.save n₁ ⟨cert.key, a₁⟩ result)).registry =
      s.registry.put (s.registry.planFor n₁ cert att₁ result).changes :=
    (save_of_plan? hf hu (hp₁.plan?_eq hf)).2.1
  have hf₁ := filed_step hf (.save n₁ ⟨cert.key, a₁⟩ result)
  obtain ⟨hf', hu', hby⟩ : s'.registry.Filed ∧ s'.Untroubled ∧
      Registry.Bypassed cert.key (s.step (.save n₁ ⟨cert.key, a₁⟩ result)).registry s'.registry :=
    bypassed_run hf₁ (untroubled_save hu) hvs
  have hkey : (judge n₁ cert att₁ result).certificate.key = cert.key := judge_certificate_key
  rw [hfirst] at hf₁ hby
  have hdecided : s'.registry.Decided result (judge n₁ cert att₁ result).certificate :=
    (Registry.decided_put_planFor hf hr).of_bypassed hf₁ hf' (hkey.symm ▸ hby)
  have hatt₁ : s'.registry.attempts.find? (cert.key, a₁) =
      some ⟨a₁, cert.key, some result.status⟩ :=
    (hby.attempts a₁).trans (hp₁.find?_attempts_put_planFor_self hf hr)
  have hatt₂ : s'.registry.attempts.find? (cert.key, a₂) = some ⟨a₂, cert.key, none⟩ := by
    rw [← hp₂.eq hf, ← hp₂.attempt]
    exact (hby.attempts a₂).trans (hp₁.find?_attempts_put_planFor_of_ne hf hother)
  -- So the second time has nothing to do but for its own attempt.
  have hpend : s'.registry.Pending ⟨cert.key, a₂⟩ (judge n₁ cert att₁ result).certificate
      ⟨a₂, cert.key, none⟩ :=
    ⟨hkey ▸ hdecided.certificate, hatt₂, rfl⟩
  obtain ⟨hanswer, hreg, cs, hcalls, hcs⟩ := save_of_plan? hf' hu' (hpend.plan?_eq hf')
  refine ⟨hatt₁, hatt₂, hanswer, ?_, hreg.trans (hdecided.put_planFor hf')⟩
  rw [callsOf, step, hcalls, hdecided.planFor_eq hf', List.drop_left]
  simpa [TrustPlan.reports] using hcs

end Session

/-- The entangled registry with a second attempt for the first certificate. -/
def Registry.askedTwice : Registry :=
  { Registry.entangled with
    attempts := Registry.entangled.attempts.insert (1, .ofDigit 3) ⟨.ofDigit 3, 1, none⟩ }

/-- The first certificate is revoked, the second found invalid, and the first revoked again. -/
theorem Session.save_again_askedTwice :
    let s := Session.start .askedTwice .empty .epoch
    let s' := s.run [Race.revocation.work, Race.rejection.work]
    s.registry.Filed ∧ s.Untroubled ∧ s.registry.Resolves ⟨1, .ofDigit 1⟩ ∧
      s.registry.Resolves ⟨1, .ofDigit 3⟩ ∧
        (save 1 ⟨1, .ofDigit 3⟩ (.revoked .epoch) s').1 = .ok true ∧
          (∀ c ∈ s'.callsOf (.save 1 ⟨1, .ofDigit 3⟩ (.revoked .epoch)), c.reportsTrust = false) ∧
            (s'.step (.save 1 ⟨1, .ofDigit 3⟩ (.revoked .epoch))).registry =
              { s'.registry with
                attempts := s'.registry.attempts.insert (1, .ofDigit 3)
                  ⟨.ofDigit 3, 1, some .revoked⟩ } := by
  have hentangled : Registry.entangled.Filed := Registry.filed_ofSnapshot _
  have hf : Registry.askedTwice.Filed :=
    { hentangled with attempts := hentangled.attempts.insert ⟨.ofDigit 3, 1, none⟩ }
  have h₁ : Registry.askedTwice.Resolves ⟨1, .ofDigit 1⟩ := ⟨by decide, _, by rfl, rfl⟩
  have h₂ : Registry.askedTwice.Resolves ⟨1, .ofDigit 3⟩ := ⟨by decide, _, by rfl, rfl⟩
  intro s s'
  have hu : s.Untroubled := untroubled_of_faults_nil rfl
  obtain ⟨-, -, hanswer, hquiet, hreg⟩ := save_again s hf hu 1 (.ofDigit 1) (.ofDigit 3) (by decide)
    h₁ h₂ (.revoked .epoch) (by decide) 5 1 [Race.rejection]
    (List.forall_mem_singleton.2 (by decide))
  have hrun : s.run (Work.save 5 ⟨1, .ofDigit 1⟩ (.revoked .epoch) ::
      [Race.rejection].map (·.work)) = s' := rfl
  rw [hrun] at hanswer hquiet hreg
  exact ⟨hf, hu, h₁, h₂, hanswer, hquiet, hreg⟩

end Admission
