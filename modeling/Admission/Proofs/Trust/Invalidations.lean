import Admission.Proofs.Trust.Commuting
import Admission.Proofs.Trust.Effect
import Admission.Proofs.Trust.Rounds

/-!
A signature falls once and for good, and every fall is reported. What a round reports as invalid is
what has come to be invalid in it (`invalidationsIn_eq`), and since signatures only ever decline
over a run (`declines_rounds`), nothing is reported a second time. An alert goes out exactly when an
unknown result that is saved leaves the failures at the maximum or beyond (`alertsIn_eq`).
-/

namespace Admission

namespace Registry

variable {r r' : Registry} {maximum : UInt32} {cert : Certificate} {att : VerificationAttempt}
  {result : VerificationResult} {k : SignatureKey} {sig : Signature}

/-- The signatures that are invalid in the second registry and were valid in the first, in key
    order. -/
def fallen (r r' : Registry) : List Signature :=
  r'.signatures.values.filter fun sig =>
    sig.status == .invalid && (r.signatures.find? sig.key).any (·.status == .valid)

theorem mem_fallen :
    sig ∈ r.fallen r' ↔ sig ∈ r'.signatures.values ∧ sig.status = .invalid ∧
      ∃ old, r.signatures.find? sig.key = some old ∧ old.status = .valid := by
  simp [fallen, Option.any_eq_true]

/-- Signatures fall in ascending order of their keys, each once. -/
theorem pairwise_fallen (h : r'.Filed) : ((r.fallen r').map (·.key)).Pairwise (· < ·) := by
  have hkeys : ((r.fallen r').map (·.key)).Sublist r'.signatures.keys := by
    rw [← h.signatures.map_key_values]
    exact List.filter_sublist.map _
  refine (r'.signatures.pairwise_keys.sublist hkeys).imp ?_
  intro a b hab
  exact compareOfLessAndEq_eq_lt.1 hab

/-- Where the signatures stay as they are, none falls. -/
theorem fallen_eq_nil (h : r.Filed) (hs : r'.signatures = r.signatures) : r.fallen r' = [] := by
  rw [List.eq_nil_iff_forall_not_mem]
  intro sig hsig
  obtain ⟨hmem, hi, old, hold, hv⟩ := mem_fallen.1 hsig
  rw [hs, h.signatures.mem_values_iff, hold] at hmem
  rw [Option.some.inj hmem, hi] at hv
  cases hv

/-- The signatures that a result takes down are the valid ones it taints. -/
theorem invalidated_cascadeFor (h : r.Filed) (c : CertificateKey) :
    (r.cascadeFor c result).invalidated =
      (r.signatures.values.filter fun s => s.status == .valid && r.taints c result s).map
        (·.invalidated) := by
  rw [cascadeFor]
  simp only [taints]
  cases result.rule? with
  | none => simp
  | some rule =>
    rw [Option.elim_some, TrustGraph.cascade_eq, invalidatedBy_loadTrustGraph h,
      TrustGraph.invalidatedBy_eq]
    rfl

/-- What a plan takes down is what falls when it is put in. -/
theorem fallen_put_planFor (h : r.Filed) :
    r.fallen (r.put (r.planFor maximum cert att result).changes) =
      (r.cascadeFor cert.key result).invalidated := by
  rw [fallen, values_signatures_put_planFor h, List.filter_map, invalidated_cascadeFor h]
  have hfalls (s : Signature) (hs : s ∈ r.signatures.values) :
      ((r.afterResult cert.key result s).status == .invalid &&
        (r.signatures.find? (r.afterResult cert.key result s).key).any (·.status == .valid)) =
      (s.status == .valid && r.taints cert.key result s) := by
    rw [(r.afterResult_fields s).1, h.signatures.mem_values_iff.1 hs, Option.any_some,
      Bool.eq_iff_iff]
    simp only [Bool.and_eq_true, beq_iff_eq, afterResult_status_iff]
    constructor
    · rintro ⟨hi | ht, hv⟩
      · rw [hv] at hi
        cases hi
      · exact ⟨hv, ht⟩
    · rintro ⟨hv, ht⟩
      exact ⟨.inr ht, hv⟩
  calc (r.signatures.values.filter _).map (r.afterResult cert.key result)
      = (r.signatures.values.filter fun s => s.status == .valid && r.taints cert.key result s).map
          (r.afterResult cert.key result) := congrArg _ (List.filter_congr hfalls)
    _ = (r.signatures.values.filter fun s => s.status == .valid && r.taints cert.key result s).map
          (·.invalidated) := by
        refine List.map_congr_left fun s hs => ?_
        have ht := (Bool.and_eq_true_iff.1 (List.mem_filter.1 hs).2).2
        rw [afterResult, if_pos ht]

/-! ### Declining -/

/-- A signature that is invalid stays as it is. -/
theorem Declines.find?_of_invalid (h : r.Declines r') (hs : r.signatures.find? k = some sig)
    (hi : sig.status = .invalid) : r'.signatures.find? k = some sig := by
  rcases h.signatures k with hk | ⟨old, hold, hk⟩
  · exact hk.trans hs
  · obtain rfl := Option.some.inj (hold.symm.trans hs)
    rw [hk, Signature.invalidated_of_status hi]

/-- A signature that is valid has been so before. -/
theorem Declines.find?_of_valid (h : r.Declines r') (hs : r'.signatures.find? k = some sig)
    (hv : sig.status = .valid) : r.signatures.find? k = some sig := by
  rcases h.signatures k with hk | ⟨old, -, hk⟩
  · exact hk.symm.trans hs
  · rw [← Option.some.inj (hk.symm.trans hs)] at hv
    cases hv

theorem Undisturbed.declines (h : r.Undisturbed r') : r.Declines r' where
  timestamps := h.timestamps
  signatures k := .inl (by rw [h.signatures])
  recorded hs hv hi := by
    rw [h.signatures, hs] at hi
    rw [Option.some.inj hi] at hv
    cases hv
  kept hp := by rw [h.signingStates, hp]

end Registry

/-- The signature that a call reports as invalid. -/
def Call.invalidation? : Call → Option Signature
  | .report (.signatureInvalidated sig) => some sig
  | _ => none

/-- The certificate that a call gives an alert for. -/
def Call.alert? : Call → Option Certificate
  | .report (.certificateAlert c) => some c
  | _ => none

theorem Call.invalidation?_eq_none {c : Call} (h : c.reportsTrust = false) :
    c.invalidation? = none := by
  cases c with
  | report t => cases t <;> simp_all [invalidation?, reportsTrust]
  | _ => rfl

theorem Call.alert?_eq_none {c : Call} (h : c.reportsTrust = false) : c.alert? = none := by
  cases c with
  | report t => cases t <;> simp_all [alert?, reportsTrust]
  | _ => rfl

namespace Session

variable {s s' : Session} {t : Round} {k : SignatureKey} {sig : Signature}

theorem declines_round (hf : s.registry.Filed) (t : Round) :
    s.registry.Declines (s.round t).registry := by
  have hj := judging s t
  generalize s.round t = s' at hj ⊢
  cases hj with
  | saved _ hp hr =>
    obtain ⟨cert, att, -, -, -, rfl⟩ := (Registry.plan?_eq_some_iff hf).1 hp
    rw [hr]
    exact Registry.declines_put_planFor hf hf (.refl _)
  | undisturbed _ hr => exact hr.declines

theorem declines_rounds (hf : s.registry.Filed) (ts : List Round) :
    s.registry.Declines (s.rounds ts).registry := by
  induction ts generalizing s with
  | nil => exact .refl _
  | cons t ts ih => exact (declines_round hf t).trans (ih (filed_round hf t))

/-! ### What a round reports -/

/-- The signatures that a round reports as invalid. -/
def invalidationsIn (s : Session) (t : Round) : List Signature :=
  (s.callsIn t).filterMap Call.invalidation?

/-- The certificates that a round gives alerts for. -/
def alertsIn (s : Session) (t : Round) : List Certificate := (s.callsIn t).filterMap Call.alert?

/-- The certificates that a round which ends in a session has to give alerts for: those whose
    failures are at the maximum once an unknown result is saved for them. -/
def alertsDue (s : Session) (t : Round) (s' : Session) : List Certificate :=
  match t with
  | .work (.save maximum m .unknown) =>
    if s.saves maximum m .unknown = true then
      (s'.registry.certificates.find? m.certificateKey).toList.filter
        (maximum ≤ ·.validationFailures)
    else []
  | _ => []

theorem filterMap_invalidation?_eq_nil {cs : List Call} (h : ∀ c ∈ cs, c.reportsTrust = false) :
    cs.filterMap Call.invalidation? = [] :=
  List.filterMap_eq_nil_iff.2 fun c hc => Call.invalidation?_eq_none (h c hc)

theorem filterMap_alert?_eq_nil {cs : List Call} (h : ∀ c ∈ cs, c.reportsTrust = false) :
    cs.filterMap Call.alert? = [] :=
  List.filterMap_eq_nil_iff.2 fun c hc => Call.alert?_eq_none (h c hc)

theorem filterMap_invalidation?_reports (plan : TrustPlan) :
    (plan.reports.map Call.report).filterMap Call.invalidation? =
      plan.changes.invalidatedSignatures := by
  have hsignatures : ((plan.changes.invalidatedSignatures.map Telemetry.signatureInvalidated).map
      Call.report).filterMap Call.invalidation? = plan.changes.invalidatedSignatures := by
    rw [List.filterMap_map, List.filterMap_map]
    exact List.filterMap_some
  rw [TrustPlan.reports, List.map_append, List.filterMap_append, hsignatures]
  split <;> rfl

theorem filterMap_alert?_reports (plan : TrustPlan) :
    (plan.reports.map Call.report).filterMap Call.alert? =
      if plan.alert then [plan.changes.certificate] else [] := by
  have hsignatures : ((plan.changes.invalidatedSignatures.map Telemetry.signatureInvalidated).map
      Call.report).filterMap Call.alert? = [] := by
    rw [List.filterMap_map, List.filterMap_map]
    exact List.filterMap_eq_nil_iff.2 fun _ _ => rfl
  rw [TrustPlan.reports, List.map_append, List.filterMap_append, hsignatures, List.append_nil]
  split <;> rfl

/-- A round reports exactly the signatures that fall in it, in key order. -/
theorem invalidationsIn_eq (hf : s.registry.Filed) (t : Round) :
    invalidationsIn s t = s.registry.fallen (s.round t).registry := by
  have hj := judging s t
  rw [invalidationsIn, callsIn]
  generalize s.round t = s' at hj ⊢
  cases hj with
  | saved _ hp hr hcs hq =>
    obtain ⟨cert, att, -, -, -, rfl⟩ := (Registry.plan?_eq_some_iff hf).1 hp
    rw [hcs, List.drop_left, List.filterMap_append, filterMap_invalidation?_eq_nil hq,
      filterMap_invalidation?_reports, hr, Registry.fallen_put_planFor hf]
    rfl
  | undisturbed _ hr hd =>
    rw [filterMap_invalidation?_eq_nil hd.drop, Registry.fallen_eq_nil hf hr.signatures]

theorem alertsDue_eq_nil (h : s.savesIn t = false) (s' : Session) : s.alertsDue t s' = [] := by
  unfold alertsDue
  split
  · rw [if_neg (by simpa [savesIn] using h)]
  · rfl

/-- A round gives exactly the alerts that are due. -/
theorem alertsIn_eq (hf : s.registry.Filed) (t : Round) :
    alertsIn s t = s.alertsDue t (s.round t) := by
  have hj := judging s t
  rw [alertsIn, callsIn]
  generalize s.round t = s' at hj ⊢
  cases hj with
  | @saved maximum m result _ _ _ hsaved hp hr hcs hq =>
    obtain ⟨cert, att, hcert, -, -, rfl⟩ := (Registry.plan?_eq_some_iff hf).1 hp
    have hkey : cert.key = m.certificateKey := hf.certificates.key_eq hcert
    have hfind : s'.registry.certificates.find? m.certificateKey =
        some (judge maximum cert att result).certificate := by
      rw [hr, Registry.find?_certificates_put_planFor, if_pos hkey.symm]
    rw [hcs, List.drop_left, List.filterMap_append, filterMap_alert?_eq_nil hq,
      filterMap_alert?_reports, List.nil_append]
    cases result with
    | unknown =>
      rw [alertsDue, if_pos hsaved, hfind]
      simp only [Registry.planFor, Judgement.changes, judge]
      split <;> simp_all
    | _ => rfl
  | undisturbed hunsaved _ hd =>
    rw [filterMap_alert?_eq_nil hd.drop, alertsDue_eq_nil hunsaved]

/-! ### Runs -/

/-- What is reported over a run is reported once, and it was valid at the start. -/
theorem nodup_invalidations (hf : s.registry.Filed) (ts : List Round) :
    ((collect invalidationsIn s ts).map (·.key)).Nodup ∧
      ∀ sig ∈ collect invalidationsIn s ts,
        ∃ old, s.registry.signatures.find? sig.key = some old ∧ old.status = .valid := by
  induction ts generalizing s with
  | nil => exact ⟨List.nodup_nil, nofun⟩
  | cons t ts ih =>
    have hf' := filed_round hf t
    obtain ⟨hnodup, hvalid⟩ := ih hf'
    have hnow := Registry.pairwise_fallen (r := s.registry) hf'
    rw [collect, invalidationsIn_eq hf]
    constructor
    · rw [List.map_append, List.nodup_append]
      refine ⟨hnow.imp Int64.ne_of_lt, hnodup, ?_⟩
      -- What falls now is invalid from here on, so it is not among what was valid after this round.
      rintro k hk k' hk' rfl
      obtain ⟨sig, hsig, rfl⟩ := List.mem_map.1 hk
      obtain ⟨sig', hsig', hkey⟩ := List.mem_map.1 hk'
      obtain ⟨hmem, hi, -⟩ := Registry.mem_fallen.1 hsig
      obtain ⟨old, hold, hv⟩ := hvalid sig' hsig'
      rw [hkey, hf'.signatures.mem_values_iff.1 hmem] at hold
      rw [← Option.some.inj hold, hi] at hv
      cases hv
    · intro sig hsig
      rcases List.mem_append.1 hsig with hsig | hsig
      · exact (Registry.mem_fallen.1 hsig).2.2
      · obtain ⟨old, hold, hv⟩ := hvalid sig hsig
        exact ⟨old, (declines_round hf t).find?_of_valid hold hv, hv⟩

/-- Over every run, a signature that is invalid stays as it is; each round reports exactly the
    signatures that fall in it, in ascending order of their keys, so that none is reported twice;
    and each round gives exactly the alerts that are due. -/
theorem rounds_report_falls (s : Session) (hf : s.registry.Filed) (ts : List Round) :
    (∀ us k sig, (s.rounds ts).registry.signatures.find? k = some sig → sig.status = .invalid →
      (s.rounds (ts ++ us)).registry.signatures.find? k = some sig) ∧
    (∀ t, invalidationsIn (s.rounds ts) t =
        (s.rounds ts).registry.fallen ((s.rounds ts).round t).registry ∧
      ((invalidationsIn (s.rounds ts) t).map (·.key)).Pairwise (· < ·)) ∧
    ((collect invalidationsIn s ts).map (·.key)).Nodup ∧
    ∀ t, alertsIn (s.rounds ts) t = (s.rounds ts).alertsDue t ((s.rounds ts).round t) := by
  have hf' := filed_rounds hf ts
  refine ⟨?_, ?_, (nodup_invalidations hf ts).1, fun t => alertsIn_eq hf' t⟩
  · intro us k sig hs hi
    rw [rounds, List.foldl_append]
    exact (declines_rounds hf' us).find?_of_invalid hs hi
  · intro t
    have heq := invalidationsIn_eq hf' t
    exact ⟨heq, heq ▸ Registry.pairwise_fallen (filed_round hf' t)⟩

end Session

/-- The first certificate of the entangled registry is revoked, at the second attempt, and the
    second one cannot be verified for now. -/
def Round.revoke : List Round :=
  [.work (.setFaults [("commit", ⟨.conflict, "busy"⟩)]),
    .work (.save 5 ⟨1, .ofDigit 1⟩ (.revoked .epoch)), .work (.setFaults []),
    .work (.save 5 ⟨1, .ofDigit 1⟩ (.revoked .epoch)), .work (.save 5 ⟨2, .ofDigit 2⟩ .unknown)]

theorem Session.rounds_report_falls_revoke :
    let s := Session.entangled.rounds Round.revoke
    let invalid : Round := .work (.save 5 ⟨2, .ofDigit 2⟩ .invalid)
    let unknown : Round := .work (.save 2 ⟨2, .ofDigit 2⟩ .unknown)
    Session.entangled.registry.Filed ∧
      (collect invalidationsIn .entangled Round.revoke).map (·.key) = [10, 12] ∧
        ((collect invalidationsIn .entangled Round.revoke).map (·.key)).Nodup ∧
          s.registry.fallen (s.round invalid).registry = [⟨11, 100, 2, .invalid⟩] ∧
            invalidationsIn s invalid = [⟨11, 100, 2, .invalid⟩] ∧
              alertsIn s unknown = [⟨2, "two", .invalid, 2, none⟩] := by
  intro s invalid unknown
  have hf : Session.entangled.registry.Filed := Registry.filed_ofSnapshot _
  have hfallen : s.registry.fallen (s.round invalid).registry = [⟨11, 100, 2, .invalid⟩] := by
    decide +kernel
  have hdue : s.alertsDue unknown (s.round unknown) = [⟨2, "two", .invalid, 2, none⟩] := by
    decide +kernel
  obtain ⟨-, hfalls, hnodup, halerts⟩ := rounds_report_falls .entangled hf Round.revoke
  exact ⟨hf, by decide +kernel, hnodup, hfallen, (hfalls invalid).1.trans hfallen,
    (halerts unknown).trans hdue⟩

end Admission
