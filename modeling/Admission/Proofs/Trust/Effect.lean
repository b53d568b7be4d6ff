import Admission.Proofs.Session.Saving

/-!
The exact effect of one verification result on the whole registry, said without the graph that is
loaded for it or the plan that is made: which signatures are invalid afterwards, which signing
states differ, and that all else is as it was (`Settled`).
-/

namespace Admission

namespace Registry

/-- Whether a signature can no longer be trusted after a result for the certificate. -/
def LosesTrust (r : Registry) (c : CertificateKey) (s : Signature) : VerificationResult → Prop
  | .good => False
  | .invalid => s.certificateKey = c ∨
      ∃ t ∈ r.timestamps.values, t.signatureKey = s.key ∧ t.certificateKey = c
  | .unknown => False
  | .revoked time => ∃ t ∈ r.timestamps.values, t.signatureKey = s.key ∧
      time.before t.value = true ∧ (s.certificateKey = c ∨ t.certificateKey = c)

/-- What a registry becomes when the result that a message brings is saved. -/
structure Settled (r r' : Registry) (maximum : UInt32) (m : CertificateMessage)
    (result : VerificationResult) : Prop where
  judged : ∃ cert att, r.certificates.find? m.certificateKey = some cert ∧
    r.attempts.find? (m.certificateKey, m.validationId) = some att ∧
      r'.certificates.find? m.certificateKey = some (judge maximum cert att result).certificate ∧
        r'.attempts.find? (m.certificateKey, m.validationId) =
          some (judge maximum cert att result).attempt
  certificates : ∀ k, k ≠ m.certificateKey → r'.certificates.find? k = r.certificates.find? k
  attempts : ∀ k, k ≠ (m.certificateKey, m.validationId) → r'.attempts.find? k = r.attempts.find? k
  signature : ∀ k s, r.signatures.find? k = some s → ∃ s', r'.signatures.find? k = some s' ∧
    s'.key = s.key ∧ s'.packageKey = s.packageKey ∧ s'.certificateKey = s.certificateKey ∧
      (s'.status = .invalid ↔ s.status = .invalid ∨ r.LosesTrust m.certificateKey s result)
  noSignature : ∀ k, r.signatures.find? k = none → r'.signatures.find? k = none
  hit : ∀ s ∈ r.signatures.values, s.status = .valid → r.LosesTrust m.certificateKey s result →
    r'.signingStates.find? s.packageKey = some ⟨s.packageKey, .invalid⟩
  spared : ∀ p, (∀ s ∈ r.signatures.values, s.packageKey = p → s.status = .valid →
    ¬r.LosesTrust m.certificateKey s result) → r'.signingStates.find? p = r.signingStates.find? p
  harmless : result = .good ∨ result = .unknown →
    r'.signatures = r.signatures ∧ r'.signingStates = r.signingStates
  packages : r'.packages = r.packages
  validationSets : r'.validationSets = r.validationSets
  timestamps : r'.timestamps = r.timestamps
  staged : r'.staged = r.staged

variable {r : Registry} {c : CertificateKey} {result : VerificationResult}

theorem taints_iff {s : Signature} : r.taints c result s = true ↔ r.LosesTrust c s result := by
  cases result with
  | good => simp [taints, VerificationResult.rule?, LosesTrust]
  | invalid => exact TrustGraph.isTainted_unconditional_iff
  | unknown => simp [taints, VerificationResult.rule?, LosesTrust]
  | revoked time => exact TrustGraph.isTainted_revokedAt_iff

/-- The plan of a registry settles it. -/
theorem settled_put (h : r.Filed) {maximum : UInt32} {m : CertificateMessage} {plan : TrustPlan}
    (hp : r.plan? maximum m result = some plan) :
    r.Settled (r.put plan.changes) maximum m result := by
  obtain ⟨cert, att, hc, ha, hpend, rfl⟩ := (plan?_eq_some_iff h).1 hp
  obtain ⟨c, id⟩ := m
  obtain rfl : cert.key = c := h.certificates.key_eq hc
  have hak : att.fileKey = (cert.key, id) := h.attempts.key_eq ha
  constructor
  case judged =>
    refine ⟨cert, att, hc, ha, ?_, ?_⟩
    · rw [find?_certificates_put_planFor, if_pos rfl]
    · rw [find?_attempts_put_planFor, if_pos hak.symm]
  case certificates =>
    intro k hk
    rw [find?_certificates_put_planFor, if_neg hk]
  case attempts =>
    intro k hk
    rw [find?_attempts_put_planFor, if_neg (hak ▸ hk)]
  case signature =>
    intro k s hs
    refine ⟨r.afterResult cert.key result s, ?_, ?_⟩
    · rw [find?_signatures_put_planFor h (.refl r), hs, Option.map_some]
    · obtain ⟨hkey, hpkg, hck⟩ := r.afterResult_fields s
      exact ⟨hkey, hpkg, hck, afterResult_status_iff.trans (or_congr_right taints_iff)⟩
  case noSignature =>
    intro k hk
    rw [find?_signatures_put_planFor h (.refl r), hk, Option.map_none]
  case hit =>
    intro s hs hv hl
    rw [find?_signingStates_put_planFor h h (.refl r), if_pos]
    exact mem_hit.2 ⟨s, hs, hv, taints_iff.2 hl, rfl⟩
  case spared =>
    intro p hp
    rw [find?_signingStates_put_planFor h h (.refl r), if_neg]
    intro hmem
    obtain ⟨s, hs, hv, ht, hk⟩ := mem_hit.1 hmem
    exact hp s hs hk hv (taints_iff.1 ht)
  case harmless =>
    rintro (rfl | rfl) <;> exact ⟨rfl, rfl⟩
  all_goals rfl

end Registry

/-- Where no call is made to fail, saving a result never fails: it is saved if its attempt is
    pending and its certificate on file, with exactly its effect on the registry, and otherwise it
    is not saved and the registry stays as it is. -/
theorem Session.save_settles (s : Session) (hs : s.registry.Filed) (hu : s.Untroubled)
    (maximum : UInt32) (m : CertificateMessage) (result : VerificationResult) :
    (s.registry.Resolves m → (save maximum m result s).1 = .ok true ∧
      s.registry.Settled (save maximum m result s).2.registry maximum m result) ∧
    (¬s.registry.Resolves m → (save maximum m result s).1 = .ok false ∧
      (save maximum m result s).2.registry = s.registry) := by
  have hsave := saving maximum m result s
  generalize save maximum m result s = x at hsave ⊢
  obtain ⟨answer, s'⟩ := x
  dsimp only at hsave ⊢
  cases hsave with
  | unread _ hf => exact absurd (hu _) hf
  | unresolved _ hp =>
    exact ⟨fun h => absurd h ((Registry.plan?_eq_none_iff hs).1 hp), fun _ => ⟨rfl, rfl⟩⟩
  | refused _ hp he =>
    rw [Registry.commit_of_plan? hs hp] at he
    exact he.elim (fun hf => absurd (hu _) hf) nofun
  | saved _ hp _ hr =>
    rw [Registry.commit_of_plan? hs hp] at hr
    obtain rfl := Except.ok.inj hr
    refine ⟨fun _ => ⟨rfl, Registry.settled_put hs hp⟩, fun h => ?_⟩
    rw [(Registry.plan?_eq_none_iff hs).2 h] at hp
    cases hp

/-! ### A registry in which certificates and packages are entangled -/

/-- A minute after the epoch. -/
def Instant.firstMinute : Instant := (Instant.ofParts? 60 0).getD .epoch

/-- Two certificates tied to one package, to signatures of each other and to one that is not on
    file, where one signing state is missing. -/
def Registry.entangled : Registry := .ofSnapshot
  { Snapshot.empty with
    certificates := [⟨1, "one", .good, 3, none⟩, ⟨2, "two", .good, 0, none⟩]
    attempts := [⟨.ofDigit 1, 1, none⟩, ⟨.ofDigit 2, 2, none⟩]
    signatures := [⟨10, 100, 1, .valid⟩, ⟨11, 100, 2, .valid⟩, ⟨12, 101, 2, .valid⟩,
      ⟨13, 102, 1, .invalid⟩, ⟨14, 103, 1, .valid⟩]
    timestamps := [⟨20, 10, 2, .firstMinute⟩, ⟨21, 12, 1, .firstMinute⟩, ⟨22, 99, 1, .firstMinute⟩,
      ⟨23, 14, 1, .epoch⟩]
    signingStates := [⟨100, .valid⟩, ⟨102, .invalid⟩] }

/-- A session on the entangled registry in which nothing is made to fail. -/
def Session.entangled : Session := .start .entangled .empty .epoch

theorem Session.save_settles_entangled :
    Session.entangled.registry.Filed ∧ Session.entangled.Untroubled ∧
      Registry.entangled.Resolves ⟨1, .ofDigit 1⟩ ∧
        (save 5 ⟨1, .ofDigit 1⟩ (.revoked .epoch) .entangled).1 = .ok true ∧
          Registry.entangled.Settled
            (save 5 ⟨1, .ofDigit 1⟩ (.revoked .epoch) .entangled).2.registry
              5 ⟨1, .ofDigit 1⟩ (.revoked .epoch) := by
  have hf : Session.entangled.registry.Filed := Registry.filed_ofSnapshot _
  have hu : Session.entangled.Untroubled := untroubled_of_faults_nil rfl
  have hr : Registry.entangled.Resolves ⟨1, .ofDigit 1⟩ := ⟨by decide, _, by rfl, rfl⟩
  have h := (save_settles .entangled hf hu 5 ⟨1, .ofDigit 1⟩ (.revoked .epoch)).1 hr
  exact ⟨hf, hu, hr, h.1, h.2⟩

end Admission
