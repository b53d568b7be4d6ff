import Admission.Proofs.Trust.Loading
import Admission.Trust.Propagation

/-!
What a verification result is planned to do to a registry, and what that does to it. A plan may be
put into a registry that has moved on since the plan was made: as long as signatures have only
fallen in between, with the signing states of their packages (`Declines`), the plan does there what
a fresh one would do (`find?_signatures_put_planFor`, `find?_signingStates_put_planFor`).
-/

namespace Admission

/-- The rule by which a result takes signatures down, if it does. -/
def VerificationResult.rule? : VerificationResult → Option CascadeRule
  | .good => none
  | .invalid => some .unconditional
  | .unknown => none
  | .revoked time => some (.revokedAt time)

section Judgements

variable {maximum : UInt32} {cert : Certificate} {att : VerificationAttempt}
  {result : VerificationResult}

theorem judge_certificate_key : (judge maximum cert att result).certificate.key = cert.key := by
  cases result with
  | unknown =>
    rw [judge]
    dsimp only
    split <;> rfl
  | _ => rfl

theorem judge_attempt_fileKey : (judge maximum cert att result).attempt.fileKey = att.fileKey := by
  cases result with
  | unknown =>
    rw [judge]
    dsimp only
    split <;> rfl
  | _ => rfl

theorem judge_cascade : (judge maximum cert att result).cascade = result.rule? := by
  cases result with
  | unknown =>
    rw [judge]
    dsimp only
    split <;> rfl
  | _ => rfl

end Judgements

namespace Registry

/-- The cascade that a result for the certificate sets off. -/
def cascadeFor (r : Registry) (c : CertificateKey) (result : VerificationResult) : Cascade :=
  result.rule?.elim ⟨[], []⟩ ((r.loadTrustGraph c).cascade c)

/-- The plan for a result that a certificate and an attempt of it have got. -/
def planFor (r : Registry) (maximum : UInt32) (cert : Certificate) (att : VerificationAttempt)
    (result : VerificationResult) : TrustPlan :=
  let j := judge maximum cert att result
  ⟨j.changes (r.cascadeFor cert.key result), j.alert⟩

/-- The plan for a result that a message brings, if the attempt is pending and the certificate on
    file. -/
def plan? (r : Registry) (maximum : UInt32) (m : CertificateMessage) (result : VerificationResult) :
    Option TrustPlan :=
  (r.pendingAttempt? m.certificateKey m.validationId).bind fun att =>
    (r.certificates.find? att.certificateKey).map fun cert => r.planFor maximum cert att result

/-- The registry once a result is saved. -/
def settle (r : Registry) (maximum : UInt32) (m : CertificateMessage)
    (result : VerificationResult) : Registry :=
  (r.plan? maximum m result).elim r fun plan => r.put plan.changes

/-- Whether a message's attempt is pending and its certificate on file. -/
def Resolves (r : Registry) (m : CertificateMessage) : Prop :=
  r.certificates.contains m.certificateKey = true ∧
    ∃ att, r.attempts.find? (m.certificateKey, m.validationId) = some att ∧ att.status = none

/-- Whether a result for the certificate takes a signature down. -/
def taints (r : Registry) (c : CertificateKey) (result : VerificationResult) (s : Signature) :
    Bool :=
  result.rule?.any (r.fullTrustGraph.isTainted s c)

/-- What becomes of a signature by a result for the certificate. -/
def afterResult (r : Registry) (c : CertificateKey) (result : VerificationResult) (s : Signature) :
    Signature :=
  if r.taints c result s = true then s.invalidated else s

/-- The packages that lose a valid signature by a result for the certificate. -/
def hit (r : Registry) (c : CertificateKey) (result : VerificationResult) : List PackageKey :=
  result.rule?.elim [] (r.fullTrustGraph.hitPackages c)

/-- What a registry has become is what it was but for signatures that have fallen since, each with
    its package recorded as invalid. -/
structure Declines (x y : Registry) : Prop where
  timestamps : y.timestamps = x.timestamps
  signatures (k : SignatureKey) : y.signatures.find? k = x.signatures.find? k ∨
    ∃ s, x.signatures.find? k = some s ∧ y.signatures.find? k = some s.invalidated
  recorded {k : SignatureKey} {s : Signature} : x.signatures.find? k = some s → s.status = .valid →
    y.signatures.find? k = some s.invalidated →
      y.signingStates.find? s.packageKey = some ⟨s.packageKey, .invalid⟩
  kept {p : PackageKey} : x.signingStates.find? p = some ⟨p, .invalid⟩ →
    y.signingStates.find? p = some ⟨p, .invalid⟩

variable {x y : Registry} {c : CertificateKey} {result : VerificationResult}

theorem Declines.refl (x : Registry) : x.Declines x where
  timestamps := rfl
  signatures _ := .inl rfl
  recorded hs hv hi := by
    have hs' := Option.some.inj (hs.symm.trans hi)
    rw [hs'] at hv
    cases hv
  kept h := h

/-! ### Signatures and packages that are taken down -/

theorem taints_congr (ht : y.timestamps = x.timestamps) {s s' : Signature} (hk : s'.key = s.key)
    (hc : s'.certificateKey = s.certificateKey) : y.taints c result s' = x.taints c result s := by
  rw [taints, taints]
  cases result.rule? with
  | none => rfl
  | some rule =>
    refine TrustGraph.isTainted_congr hk hc ?_
    rw [TrustGraph.timestampsFor, TrustGraph.timestampsFor, fullTrustGraph, fullTrustGraph, ht]

theorem afterResult_status_iff {s : Signature} :
    (x.afterResult c result s).status = .invalid ↔
      s.status = .invalid ∨ x.taints c result s = true := by
  rw [afterResult]
  split
  · rename_i ht
    exact ⟨fun _ => .inr ht, fun _ => rfl⟩
  · rename_i ht
    exact ⟨.inl, fun h => h.resolve_right ht⟩

theorem afterResult_fields (s : Signature) :
    (x.afterResult c result s).key = s.key ∧ (x.afterResult c result s).packageKey = s.packageKey ∧
      (x.afterResult c result s).certificateKey = s.certificateKey := by
  rw [afterResult]
  split <;> exact ⟨rfl, rfl, rfl⟩

theorem mem_hit {p : PackageKey} :
    p ∈ x.hit c result ↔ ∃ s ∈ x.signatures.values,
      s.status = .valid ∧ x.taints c result s = true ∧ s.packageKey = p := by
  rw [hit]
  simp only [taints]
  cases result.rule? with
  | none => simp
  | some rule =>
    rw [Option.elim_some, TrustGraph.mem_hitPackages]
    simp only [TrustGraph.falls_iff, Option.any_some, and_assoc]
    rfl

/-- A package hit before is hit still, or it is recorded as invalid by now. -/
theorem Declines.hit_or_recorded (hy : y.Filed) (hd : x.Declines y) (hx : x.Filed) {p : PackageKey}
    (hp : p ∈ x.hit c result) :
    p ∈ y.hit c result ∨ y.signingStates.find? p = some ⟨p, .invalid⟩ := by
  obtain ⟨s, hs, hv, ht, rfl⟩ := mem_hit.1 hp
  rw [hx.signatures.mem_values_iff] at hs
  rcases hd.signatures s.key with hk | ⟨s', hs', hk⟩
  · refine .inl (mem_hit.2 ⟨s, hy.signatures.mem_values_iff.2 (hk.trans hs), hv, ?_, rfl⟩)
    rw [taints_congr hd.timestamps rfl rfl, ht]
  · obtain rfl := Option.some.inj (hs'.symm.trans hs)
    exact .inr (hd.recorded hs hv hk)

/-- Nothing is hit that was not hit before. -/
theorem Declines.hit_of_hit (hy : y.Filed) (hd : x.Declines y) (hx : x.Filed) {p : PackageKey}
    (hp : p ∈ y.hit c result) : p ∈ x.hit c result := by
  obtain ⟨s, hs, hv, ht, rfl⟩ := mem_hit.1 hp
  rw [hy.signatures.mem_values_iff] at hs
  rcases hd.signatures s.key with hk | ⟨s', hs', hk⟩
  · refine mem_hit.2 ⟨s, hx.signatures.mem_values_iff.2 (hk.symm.trans hs), hv, ?_, rfl⟩
    rw [← taints_congr hd.timestamps rfl rfl, ht]
  · obtain rfl := Option.some.inj (hk.symm.trans hs)
    cases hv

/-! ### Putting a plan into a registry that has moved on -/

variable {maximum : UInt32} {cert : Certificate} {att : VerificationAttempt}

theorem find?_certificates_put_planFor (k : CertificateKey) :
    (y.put (x.planFor maximum cert att result).changes).certificates.find? k =
      if k = cert.key then some (judge maximum cert att result).certificate
      else y.certificates.find? k := by
  rw [put, planFor, Judgement.changes, SortedMap.find?_insert, judge_certificate_key]

theorem find?_attempts_put_planFor (k : AttemptKey) :
    (y.put (x.planFor maximum cert att result).changes).attempts.find? k =
      if k = att.fileKey then some (judge maximum cert att result).attempt
      else y.attempts.find? k := by
  rw [put, planFor, Judgement.changes, SortedMap.find?_insert, judge_attempt_fileKey]

theorem find?_signatures_put_planFor (hx : x.Filed) (hd : x.Declines y) (k : SignatureKey) :
    (y.put (x.planFor maximum cert att result).changes).signatures.find? k =
      (y.signatures.find? k).map (y.afterResult cert.key result) := by
  have htaints (s : Signature) : y.taints cert.key result s = x.taints cert.key result s :=
    taints_congr hd.timestamps rfl rfl
  have hafter : y.afterResult cert.key result =
      fun s => if x.taints cert.key result s = true then s.invalidated else s := by
    funext s
    rw [afterResult, htaints]
  rw [hafter]
  cases hr : result.rule? with
  | none => simp [put, planFor, Judgement.changes, cascadeFor, taints, hr]
  | some rule =>
    simp only [put, planFor, Judgement.changes, cascadeFor, taints, hr, Option.elim_some,
      Option.any_some, TrustGraph.cascade_eq, invalidatedBy_loadTrustGraph hx]
    exact TrustGraph.find?_foldl_invalidatedBy_of_fallen hx.fullTrustGraph.signatures
      (hd.signatures k)

/-- The signatures after a result are those from before with what became of them. -/
theorem values_signatures_put_planFor (h : x.Filed) :
    (x.put (x.planFor maximum cert att result).changes).signatures.values =
      x.signatures.values.map (x.afterResult cert.key result) :=
  SortedMap.values_eq_map (find?_signatures_put_planFor h (.refl x))

/-- The packages hit when the plan was made come to be recorded as invalid. -/
theorem find?_signingStates_put_planFor_of_declines (hx : x.Filed) (hd : x.Declines y)
    (p : PackageKey) :
    (y.put (x.planFor maximum cert att result).changes).signingStates.find? p =
      if p ∈ x.hit cert.key result then some ⟨p, .invalid⟩ else y.signingStates.find? p := by
  cases hr : result.rule? with
  | none => simp [put, planFor, Judgement.changes, cascadeFor, hit, hr]
  | some rule =>
    simp only [put, planFor, Judgement.changes, cascadeFor, hit, hr, Option.elim_some,
      TrustGraph.cascade_eq, invalidatedBy_loadTrustGraph hx, changedStates_loadTrustGraph hx]
    exact TrustGraph.find?_foldl_changedStates hx.fullTrustGraph.signingStates _
      (fun _ _ h => hd.kept h) p

/-- The packages hit now are all that need to be recorded as invalid. -/
theorem find?_signingStates_put_planFor (hx : x.Filed) (hy : y.Filed) (hd : x.Declines y)
    (p : PackageKey) :
    (y.put (x.planFor maximum cert att result).changes).signingStates.find? p =
      if p ∈ y.hit cert.key result then some ⟨p, .invalid⟩ else y.signingStates.find? p := by
  rw [find?_signingStates_put_planFor_of_declines hx hd]
  by_cases hp : p ∈ y.hit cert.key result
  · rw [if_pos hp, if_pos (hd.hit_of_hit hy hx hp)]
  · rw [if_neg hp]
    split
    · rename_i hpx
      exact ((hd.hit_or_recorded hy hx hpx).resolve_left hp).symm
    · rfl

/-- What a plan makes of a registry is again only a decline. -/
theorem declines_put_planFor (hx : x.Filed) (hy : y.Filed) (hd : x.Declines y) :
    y.Declines (y.put (x.planFor maximum cert att result).changes) where
  timestamps := rfl
  signatures k := by
    rw [find?_signatures_put_planFor hx hd]
    cases hs : y.signatures.find? k with
    | none => exact .inl rfl
    | some s =>
      rw [Option.map_some, afterResult]
      split
      · exact .inr ⟨s, rfl, rfl⟩
      · exact .inl rfl
  recorded := by
    intro k s hs hv hi
    rw [find?_signatures_put_planFor hx hd, hs, Option.map_some, afterResult] at hi
    rw [find?_signingStates_put_planFor hx hy hd, if_pos]
    obtain rfl : s.key = k := hy.signatures.key_eq hs
    refine mem_hit.2 ⟨s, hy.signatures.mem_values_iff.2 hs, hv, ?_, rfl⟩
    split at hi
    · assumption
    · rw [Option.some.inj hi] at hv
      cases hv
  kept := by
    intro p hp
    rw [find?_signingStates_put_planFor hx hy hd]
    split
    · rfl
    · exact hp

/-! ### Committing a plan -/

theorem plan?_eq_some_iff (hx : x.Filed) {m : CertificateMessage} {plan : TrustPlan} :
    x.plan? maximum m result = some plan ↔
      ∃ cert att, x.certificates.find? m.certificateKey = some cert ∧
        x.attempts.find? (m.certificateKey, m.validationId) = some att ∧ att.status = none ∧
          plan = x.planFor maximum cert att result := by
  rw [plan?, pendingAttempt?]
  simp only [Option.bind_eq_some_iff, Option.filter_eq_some_iff, Option.map_eq_some_iff,
    VerificationAttempt.isPending, Option.isNone_iff_eq_none]
  constructor
  · rintro ⟨att, ⟨ha, hpend⟩, cert, hc, rfl⟩
    have hkey : att.certificateKey = m.certificateKey := congrArg Prod.fst (hx.attempts.key_eq ha)
    exact ⟨cert, att, hkey ▸ hc, ha, hpend, rfl⟩
  · rintro ⟨cert, att, hc, ha, hpend, rfl⟩
    have hkey : att.certificateKey = m.certificateKey := congrArg Prod.fst (hx.attempts.key_eq ha)
    exact ⟨att, ⟨ha, hpend⟩, cert, hkey.symm ▸ hc, rfl⟩

theorem plan?_eq_none_iff (hx : x.Filed) {m : CertificateMessage} :
    x.plan? maximum m result = none ↔ ¬x.Resolves m := by
  rw [Option.eq_none_iff_forall_ne_some, Resolves, SortedMap.contains_iff]
  constructor
  · rintro h ⟨⟨cert, hc⟩, att, ha, hpend⟩
    exact h _ ((plan?_eq_some_iff hx).2 ⟨cert, att, hc, ha, hpend, rfl⟩)
  · rintro h plan hp
    obtain ⟨cert, att, hc, ha, hpend, -⟩ := (plan?_eq_some_iff hx).1 hp
    exact h ⟨⟨cert, hc⟩, att, ha, hpend⟩

/-- A signature planned to fall is on file, then and later. -/
theorem contains_of_mem_invalidated (hx : x.Filed) (hd : x.Declines y) {s : Signature}
    (hs : s ∈ (x.cascadeFor c result).invalidated) : y.signatures.contains s.key = true := by
  rw [cascadeFor] at hs
  cases hr : result.rule? with
  | none =>
    rw [hr] at hs
    cases hs
  | some rule =>
    rw [hr, Option.elim_some, TrustGraph.cascade_eq, invalidatedBy_loadTrustGraph hx] at hs
    obtain ⟨s₀, hs₀, -, rfl⟩ := TrustGraph.mem_invalidatedBy.1 hs
    have hfile : x.signatures.find? s₀.key = some s₀ := hx.signatures.mem_values_iff.1 hs₀
    rw [SortedMap.contains_iff]
    rcases hd.signatures s₀.key with hk | ⟨s', -, hk⟩
    · exact ⟨s₀, hk.trans hfile⟩
    · exact ⟨_, hk⟩

/-- A plan is accepted as long as its certificate is on file and its attempt pending. -/
theorem commit_planFor (hx : x.Filed) (hd : x.Declines y)
    (hc : y.certificates.contains cert.key = true)
    (ha : y.attempts.find? att.fileKey = some att) (hpend : att.status = none) :
    y.commit (x.planFor maximum cert att result).changes =
      .ok (y.put (x.planFor maximum cert att result).changes) := by
  have hsig : (x.cascadeFor cert.key result).invalidated.find?
      (fun s => !y.signatures.contains s.key) = none := by
    rw [List.find?_eq_none]
    intro s hs
    simp [contains_of_mem_invalidated hx hd hs]
  have herr : y.commitError? (x.planFor maximum cert att result).changes = none := by
    simp [commitError?, planFor, Judgement.changes, judge_certificate_key, judge_attempt_fileKey,
      hc, ha, VerificationAttempt.isPending, hpend, hsig]
  rw [commit, herr]

/-- Saving a result has to do with neither packages nor statuses that are staged. -/
theorem packages_settle (m : CertificateMessage) :
    (x.settle maximum m result).packages = x.packages ∧
      (x.settle maximum m result).staged = x.staged := by
  rw [settle]
  cases x.plan? maximum m result <;> exact ⟨rfl, rfl⟩

theorem Filed.settle (hx : x.Filed) (m : CertificateMessage) :
    (x.settle maximum m result).Filed := by
  rw [Registry.settle]
  cases x.plan? maximum m result with
  | none => exact hx
  | some plan => exact hx.put plan.changes

/-- A registry accepts its own plans. -/
theorem commit_of_plan? (hx : x.Filed) {m : CertificateMessage} {plan : TrustPlan}
    (hp : x.plan? maximum m result = some plan) :
    x.commit plan.changes = .ok (x.put plan.changes) := by
  obtain ⟨cert, att, hc, ha, hpend, rfl⟩ := (plan?_eq_some_iff hx).1 hp
  have hck : cert.key = m.certificateKey := hx.certificates.key_eq hc
  have hak : att.fileKey = (m.certificateKey, m.validationId) := hx.attempts.key_eq ha
  exact commit_planFor hx (.refl x) (SortedMap.contains_iff.2 ⟨cert, hck ▸ hc⟩) (hak ▸ ha) hpend

end Registry

end Admission
