import Admission.Proofs.Trust.History
import Admission.Proofs.Trust.Repetition

/-!
The same message comes again and again while its certificate cannot be verified. Each delivery is
counted until the failures reach the maximum; with that one the certificate and the attempt become
invalid and an alert goes out, and from then on there is no pending attempt for the message
(`deliveries_unknown`). How many deliveries that takes can be told beforehand
(`Certificate.patience`): each that is only counted leaves one fewer (`patience_counted`).
-/

namespace Admission

/-! ### One unknown result -/

namespace Certificate

variable {c : Certificate} {maximum : UInt32}

/-- How many unknown results are saved for one attempt of the certificate, the last of which makes
    both invalid. -/
def patience (c : Certificate) (maximum : UInt32) : Nat :=
  max 1 (maximum.toNat - c.validationFailures.toNat)

/-- The certificate with one more failure. -/
def counted (c : Certificate) : Certificate :=
  { c with validationFailures := saturatingSucc c.validationFailures }

/-- The certificate once an unknown result has come a number of times for one attempt. -/
def tried (c : Certificate) (maximum : UInt32) (n : Nat) : Certificate :=
  { c with
    validationFailures :=
      .ofNat (min (2 ^ 32 - 1) (c.validationFailures.toNat + min n (c.patience maximum)))
    status := if n < c.patience maximum then c.status else .invalid }

theorem patience_pos : 0 < c.patience maximum := Nat.lt_of_lt_of_le Nat.one_pos (Nat.le_max_left ..)

/-- The next unknown result is the last one if it brings the failures to the maximum. -/
theorem patience_eq_one_iff :
    c.patience maximum = 1 ↔ maximum ≤ c.counted.validationFailures := by
  have hlt := maximum.toNat_lt
  rw [UInt32.le_iff_toNat_le, counted, toNat_saturatingSucc, patience]
  omega

theorem patience_counted (h : c.patience maximum ≠ 1) :
    c.patience maximum = c.counted.patience maximum + 1 := by
  have hlt := maximum.toNat_lt
  rw [patience] at h
  rw [patience, patience, counted, toNat_saturatingSucc]
  omega

@[simp] theorem tried_zero : c.tried maximum 0 = c := by
  have hlt := c.validationFailures.toNat_lt
  have hfailures : min (2 ^ 32 - 1) (c.validationFailures.toNat + min 0 (c.patience maximum)) =
      c.validationFailures.toNat := by omega
  rw [tried, hfailures, UInt32.ofNat_toNat, if_pos patience_pos]

/-- After the last unknown result it does not matter how often it comes. -/
theorem tried_of_patience_eq_one (h : c.patience maximum = 1) (n : Nat) :
    c.tried maximum (n + 1) = { c.counted with status := .invalid } := by
  have hfailures : UInt32.ofNat (min (2 ^ 32 - 1) (c.validationFailures.toNat + 1)) =
      saturatingSucc c.validationFailures := by
    rw [← toNat_saturatingSucc, UInt32.ofNat_toNat]
  rw [tried, h, Nat.min_eq_right (Nat.le_add_left 1 n), hfailures, if_neg (by omega)]
  rfl

/-- A result that is only counted leaves the others to the counted certificate. -/
theorem tried_counted (h : c.patience maximum ≠ 1) (n : Nat) :
    c.counted.tried maximum n = c.tried maximum (n + 1) := by
  have hcounted := patience_counted h
  have hfailures : min (2 ^ 32 - 1)
        (c.counted.validationFailures.toNat + min n (c.counted.patience maximum)) =
      min (2 ^ 32 - 1)
        (c.validationFailures.toNat + min (n + 1) (c.counted.patience maximum + 1)) := by
    rw [counted, toNat_saturatingSucc]
    omega
  rw [tried, hfailures, tried, hcounted]
  simp only [Nat.add_lt_add_iff_right]
  rfl

end Certificate

/-- Judging an unknown result is counting it, and giving up with the last one. -/
theorem judge_unknown (maximum : UInt32) (c : Certificate) (a : VerificationAttempt) :
    judge maximum c a .unknown =
      if c.patience maximum = 1 then
        ⟨{ c.counted with status := .invalid }, { a with status := some .invalid }, true, none⟩
      else ⟨c.counted, a, false, none⟩ := by
  simp only [Certificate.patience_eq_one_iff]
  rfl

namespace Registry

variable {x : Registry} {m : CertificateMessage} {cert : Certificate} {att : VerificationAttempt}

/-- The registry with a certificate and an attempt put on file. -/
def judged (x : Registry) (cert : Certificate) (att : VerificationAttempt) : Registry :=
  { x with
    certificates := x.certificates.insert cert.key cert
    attempts := x.attempts.insert att.fileKey att }

/-- An unknown result bears on its certificate and its attempt alone. -/
theorem planFor_unknown (maximum : UInt32) :
    x.planFor maximum cert att .unknown =
      if cert.patience maximum = 1 then
        ⟨⟨{ cert.counted with status := .invalid }, { att with status := some .invalid }, [], []⟩,
          true⟩
      else ⟨⟨cert.counted, att, [], []⟩, false⟩ := by
  rw [planFor, judge_unknown]
  split <;> rfl

theorem judged_judged {cert' : Certificate} {att' : VerificationAttempt}
    (hc : cert'.key = cert.key) (ha : att'.fileKey = att.fileKey) :
    (x.judged cert att).judged cert' att' = x.judged cert' att' := by
  rw [judged, judged, judged, hc, ha, SortedMap.insert_insert, SortedMap.insert_insert]

theorem pending_judged (hkey : cert.key = m.certificateKey) :
    (x.judged cert ⟨m.validationId, m.certificateKey, none⟩).Pending m cert
      ⟨m.validationId, m.certificateKey, none⟩ where
  certificate := by rw [judged, hkey, SortedMap.find?_insert_self]
  attempt := SortedMap.find?_insert_self ..
  undecided := rfl

/-- An attempt with a status is not pending any more. -/
theorem not_resolves_judged {status : CertificateStatus} :
    ¬(x.judged cert ⟨m.validationId, m.certificateKey, some status⟩).Resolves m := by
  rintro ⟨-, att, ha, hpend⟩
  have hfind : (x.judged cert ⟨m.validationId, m.certificateKey, some status⟩).attempts.find?
      (m.certificateKey, m.validationId) = some ⟨m.validationId, m.certificateKey, some status⟩ :=
    SortedMap.find?_insert_self ..
  rw [← Option.some.inj (hfind.symm.trans ha)] at hpend
  cases hpend

theorem Pending.judged_eq (h : x.Pending m cert att) (hx : x.Filed) : x.judged cert att = x := by
  have hc : cert.key = m.certificateKey := hx.certificates.key_eq h.certificate
  have ha : att.fileKey = (m.certificateKey, m.validationId) := hx.attempts.key_eq h.attempt
  rw [judged, hc, ha, SortedMap.insert_eq_self h.certificate, SortedMap.insert_eq_self h.attempt]

end Registry

/-! ### Deliveries -/

namespace Session

/-- Saves one result for a message a number of times. Answers what each of them answers. -/
def deliveries (maximum : UInt32) (m : CertificateMessage) (result : VerificationResult) :
    Nat → StateM Session (List (Except TrustError Bool))
  | 0 => return []
  | n + 1 => do
    let answer ← save maximum m result
    return answer :: (← deliveries maximum m result n)

/-- What is reported of certificates and signatures on the way from one session to another. -/
def Reports (s : Session) (ts : List Telemetry) (s' : Session) : Prop :=
  ∃ cs, s'.calls = s.calls ++ cs ∧ cs.filter (·.reportsTrust) = ts.map .report

variable {s s' s'' : Session} {ts us : List Telemetry} {maximum : UInt32} {m : CertificateMessage}
  {result : VerificationResult} {cert : Certificate} {att : VerificationAttempt}

theorem Reports.refl (s : Session) : s.Reports [] s := ⟨[], (List.append_nil _).symm, rfl⟩

theorem Reports.trans (h : s.Reports ts s') (h' : s'.Reports us s'') :
    s.Reports (ts ++ us) s'' := by
  obtain ⟨cs, hcs, hts⟩ := h
  obtain ⟨ds, hds, hus⟩ := h'
  refine ⟨cs ++ ds, ?_, ?_⟩
  · rw [hds, hcs, List.append_assoc]
  · rw [List.filter_append, hts, hus, List.map_append]

theorem filter_reportsTrust_eq_nil {cs : List Call} (h : ∀ c ∈ cs, c.reportsTrust = false) :
    cs.filter (·.reportsTrust) = [] :=
  List.filter_eq_nil_iff.2 fun c hc => by simp [h c hc]

/-- All that a plan reports is of certificates and signatures. -/
theorem filter_reportsTrust_reports (plan : TrustPlan) :
    (plan.reports.map Call.report).filter (·.reportsTrust) = plan.reports.map .report := by
  rw [List.filter_eq_self, TrustPlan.reports]
  intro c hc
  obtain ⟨t, ht, rfl⟩ := List.mem_map.1 hc
  rcases List.mem_append.1 ht with ht | ht
  · split at ht
    · rw [List.mem_singleton.1 ht]
      rfl
    · cases ht
  · obtain ⟨sig, -, rfl⟩ := List.mem_map.1 ht
    rfl

theorem Discreet.reports (h : s.Discreet s') : s.Reports [] s' := by
  obtain ⟨cs, hcs, hquiet⟩ := h
  exact ⟨cs, hcs, filter_reportsTrust_eq_nil hquiet⟩

theorem reports_save (hf : s.registry.Filed) (hu : s.Untroubled) {plan : TrustPlan}
    (hp : s.registry.plan? maximum m result = some plan) :
    s.Reports plan.reports (save maximum m result s).2 := by
  obtain ⟨-, -, cs, hcalls, hquiet⟩ := save_of_plan? hf hu hp
  refine ⟨_, hcalls, ?_⟩
  rw [List.filter_append, filter_reportsTrust_eq_nil hquiet, filter_reportsTrust_reports,
    List.nil_append]

/-- An unknown result is counted; the last one makes certificate and attempt invalid, and an alert
    goes out for it. -/
theorem save_unknown (hf : s.registry.Filed) (hu : s.Untroubled)
    (hp : s.registry.Pending m cert att) (maximum : UInt32) :
    let givenUp : Certificate := { cert.counted with status := .invalid }
    let x := save maximum m .unknown s
    x.1 = .ok true ∧
      if cert.patience maximum = 1 then
        x.2.registry = s.registry.judged givenUp { att with status := some .invalid } ∧
          s.Reports [.certificateAlert givenUp] x.2
      else x.2.registry = s.registry.judged cert.counted att ∧ s.Reports [] x.2 := by
  have hplan : s.registry.plan? maximum m .unknown =
      some (s.registry.planFor maximum cert att .unknown) := hp.plan?_eq hf
  obtain ⟨hanswer, hreg, -⟩ := save_of_plan? hf hu hplan
  have hreports := reports_save hf hu hplan
  rw [Registry.planFor_unknown] at hreg hreports
  refine ⟨hanswer, ?_⟩
  by_cases hlast : cert.patience maximum = 1
  · rw [if_pos hlast] at hreg hreports ⊢
    exact ⟨hreg, hreports⟩
  · rw [if_neg hlast] at hreg hreports ⊢
    exact ⟨hreg, hreports⟩

theorem run_deliveries_succ (n : Nat) (s : Session) :
    deliveries maximum m result (n + 1) s =
      ((save maximum m result s).1 :: (deliveries maximum m result n (save maximum m result s).2).1,
        (deliveries maximum m result n (save maximum m result s).2).2) := rfl

/-- Without a pending attempt for it a message changes nothing, however often it comes. -/
theorem deliveries_of_not_resolves (hf : s.registry.Filed) (hu : s.Untroubled)
    (h : ¬s.registry.Resolves m) (maximum : UInt32) (result : VerificationResult) (n : Nat) :
    (deliveries maximum m result n s).1 = List.replicate n (.ok false) ∧
      (deliveries maximum m result n s).2.registry = s.registry ∧
        s.Reports [] (deliveries maximum m result n s).2 := by
  induction n generalizing s with
  | zero => exact ⟨rfl, rfl, .refl s⟩
  | succ n ih =>
    obtain ⟨hanswer, hreg, hquiet⟩ :=
      save_of_plan?_eq_none hu ((Registry.plan?_eq_none_iff hf).2 h)
    obtain ⟨hanswers, hreg', hreports⟩ :=
      ih (s := (save maximum m result s).2) (hreg ▸ hf) (untroubled_save hu) (hreg ▸ h)
    rw [run_deliveries_succ]
    dsimp only
    refine ⟨?_, hreg'.trans hreg, hquiet.reports.trans hreports⟩
    rw [hanswer, hanswers, List.replicate_succ]

/-- An unknown result comes any number of times for a pending attempt whose certificate is on file.
    It is saved as often as the certificate has patience and no more; the attempt is pending until
    then and invalid from then on. Nothing but the certificate and the attempt changes in the
    registry, and all that is reported is one alert, once the last result is saved. -/
theorem deliveries_unknown (s : Session) (hf : s.registry.Filed) (hu : s.Untroubled)
    (maximum : UInt32) (m : CertificateMessage) (cert : Certificate) (att : VerificationAttempt)
    (hp : s.registry.Pending m cert att) (n : Nat) :
    let p := cert.patience maximum
    let x := deliveries maximum m .unknown n s
    x.1 = List.replicate (min n p) (.ok true) ++ List.replicate (n - p) (.ok false) ∧
      x.2.registry = s.registry.judged (cert.tried maximum n)
        ⟨m.validationId, m.certificateKey, if n < p then none else some .invalid⟩ ∧
      s.Reports (if n < p then [] else [.certificateAlert (cert.tried maximum n)]) x.2 := by
  obtain rfl := hp.eq hf
  induction n generalizing s cert with
  | zero =>
    dsimp only
    rw [if_pos Certificate.patience_pos, if_pos Certificate.patience_pos, Certificate.tried_zero,
      hp.judged_eq hf]
    exact ⟨by simp [deliveries, run_pure], rfl, .refl s⟩
  | succ n ih =>
    have hkey := hf.certificates.key_eq hp.certificate
    have hf' : (save maximum m .unknown s).2.registry.Filed :=
      filed_step hf (.save maximum m .unknown)
    have hu' : (save maximum m .unknown s).2.Untroubled := untroubled_save hu
    obtain ⟨hanswer, hstep⟩ := save_unknown hf hu hp maximum
    rw [run_deliveries_succ]
    dsimp only
    rw [hanswer]
    generalize (save maximum m .unknown s).2 = s' at hf' hu' hstep ⊢
    by_cases hlast : cert.patience maximum = 1
    · -- This result is the last one, so all that comes after it finds no pending attempt.
      rw [if_pos hlast] at hstep
      obtain ⟨hreg, hreports⟩ := hstep
      have hdecided : ¬s'.registry.Resolves m := hreg ▸ Registry.not_resolves_judged
      obtain ⟨hanswers, hreg', hreports'⟩ :=
        deliveries_of_not_resolves hf' hu' hdecided maximum .unknown n
      rw [hlast, if_neg (by omega), if_neg (by omega),
        Certificate.tried_of_patience_eq_one hlast, Nat.min_eq_right (by omega),
        Nat.add_sub_cancel, hanswers, hreg', hreg]
      exact ⟨rfl, rfl, hreports.trans hreports'⟩
    · -- The certificate has one failure more and patience for one result less.
      rw [if_neg hlast] at hstep
      obtain ⟨hreg, hreports⟩ := hstep
      have hp' : s'.registry.Pending m cert.counted ⟨m.validationId, m.certificateKey, none⟩ :=
        hreg ▸ Registry.pending_judged hkey
      obtain ⟨hanswers, hreg', hreports'⟩ := ih s' hf' hu' cert.counted hp'
      rw [Certificate.tried_counted hlast] at hreg' hreports'
      rw [Certificate.patience_counted hlast, hanswers, hreg', hreg, Nat.add_min_add_right,
        Nat.add_sub_add_right, List.replicate_succ]
      simp only [Nat.add_lt_add_iff_right]
      exact ⟨rfl, Registry.judged_judged rfl rfl, hreports.trans hreports'⟩

/-- The first certificate of the entangled registry has failed three times; at the fifth time there
    is an alert, and what comes later is not saved. -/
theorem deliveries_unknown_entangled :
    let failed : Certificate := ⟨1, "one", .good, 3, none⟩
    let givenUp : Certificate := ⟨1, "one", .invalid, 5, none⟩
    let x := deliveries 5 ⟨1, .ofDigit 1⟩ .unknown 4 .entangled
    Session.entangled.registry.Filed ∧ Session.entangled.Untroubled ∧
      Registry.entangled.Pending ⟨1, .ofDigit 1⟩ failed ⟨.ofDigit 1, 1, none⟩ ∧
        x.1 = [.ok true, .ok true, .ok false, .ok false] ∧
          x.2.registry = Registry.entangled.judged givenUp ⟨.ofDigit 1, 1, some .invalid⟩ ∧
            Session.entangled.Reports [.certificateAlert givenUp] x.2 := by
  intro failed givenUp x
  have hf : Session.entangled.registry.Filed := Registry.filed_ofSnapshot _
  have hu : Session.entangled.Untroubled := untroubled_of_faults_nil rfl
  have hp : Registry.entangled.Pending ⟨1, .ofDigit 1⟩ failed ⟨.ofDigit 1, 1, none⟩ :=
    ⟨by decide, by decide, rfl⟩
  have hpatience : failed.patience 5 = 2 := by decide
  have htried : failed.tried 5 4 = givenUp := by decide +kernel
  obtain ⟨hanswers, hreg, hreports⟩ := deliveries_unknown .entangled hf hu 5 _ _ _ hp 4
  rw [hpatience, htried] at hreg hreports
  rw [hpatience] at hanswers
  refine ⟨hf, hu, hp, hanswers, ?_, hreports⟩
  rw [hreg]
  rfl

end Session

end Admission
