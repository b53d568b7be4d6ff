import Admission.Proofs.Trust.Planning

/-!
Results for different certificates do not get in each other's way. A plan made before another result
was put in is out of date, but it is still accepted and does what a fresh plan would do
(`put_planFor_stale`, `Pending.commit`), and it does not matter which of two results settles a
registry first (`settle_comm`).
-/

namespace Admission

namespace Registry

variable {x y z : Registry} {maximum₁ maximum₂ maximum : UInt32} {cert₁ cert₂ cert : Certificate}
  {att₁ att₂ att : VerificationAttempt} {result₁ result₂ result : VerificationResult}
  {m : CertificateMessage}

/-! ### Plans that are out of date -/

theorem Declines.trans (hxy : x.Declines y) (hyz : y.Declines z) : x.Declines z where
  timestamps := hyz.timestamps.trans hxy.timestamps
  signatures k := by
    rcases hyz.signatures k with hz | ⟨s, hs, hz⟩
    · rw [hz]
      exact hxy.signatures k
    · rcases hxy.signatures k with hy | ⟨t, ht, hy⟩
      · exact .inr ⟨s, hy ▸ hs, hz⟩
      · obtain rfl := Option.some.inj (hs.symm.trans hy)
        exact .inr ⟨t, ht, hz⟩
  recorded := by
    intro k s hs hv hz
    rcases hxy.signatures k with hy | ⟨t, ht, hy⟩
    · exact hyz.recorded (hy.trans hs) hv hz
    · obtain rfl := Option.some.inj (ht.symm.trans hs)
      exact hyz.kept (hxy.recorded hs hv hy)
  kept h := hyz.kept (hxy.kept h)

/-- Two registries with the same entries in what results have to do with. -/
structure SameTrust (y z : Registry) : Prop where
  certificates (k : CertificateKey) : y.certificates.find? k = z.certificates.find? k
  attempts (k : AttemptKey) : y.attempts.find? k = z.attempts.find? k
  signatures (k : SignatureKey) : y.signatures.find? k = z.signatures.find? k
  signingStates (p : PackageKey) : y.signingStates.find? p = z.signingStates.find? p

theorem SameTrust.eq (h : y.SameTrust z) (hp : y.packages = z.packages)
    (hv : y.validationSets = z.validationSets) (ht : y.timestamps = z.timestamps)
    (hs : y.staged = z.staged) : y = z := by
  have hc := SortedMap.ext_find? h.certificates
  have ha := SortedMap.ext_find? h.attempts
  have hsig := SortedMap.ext_find? h.signatures
  have hst := SortedMap.ext_find? h.signingStates
  cases y
  cases z
  simp only [mk.injEq]
  exact ⟨hp, hv, hc, ha, hsig, ht, hst, hs⟩

/-- A plan that is out of date does what a fresh one would do. -/
theorem put_planFor_stale (hx : x.Filed) (hy : y.Filed) (hd : x.Declines y) :
    y.put (x.planFor maximum cert att result).changes =
      y.put (y.planFor maximum cert att result).changes := by
  refine SameTrust.eq ⟨?_, ?_, ?_, ?_⟩ (by simp) (by simp) (by simp) (by simp)
  · intro k
    rw [find?_certificates_put_planFor, find?_certificates_put_planFor]
  · intro k
    rw [find?_attempts_put_planFor, find?_attempts_put_planFor]
  · intro k
    rw [find?_signatures_put_planFor hx hd, find?_signatures_put_planFor hy (.refl y)]
  · intro p
    rw [find?_signingStates_put_planFor hx hy hd, find?_signingStates_put_planFor hy hy (.refl y)]

/-! ### Settling in either order -/

theorem afterResult_put (c : TrustChanges) (k : CertificateKey) (s : Signature) :
    (x.put c).afterResult k result s = x.afterResult k result s := by
  rw [afterResult, afterResult, taints_congr (timestamps_put x c) rfl rfl]

theorem afterResult_comm (c₁ c₂ : CertificateKey) (s : Signature) :
    x.afterResult c₂ result₂ (x.afterResult c₁ result₁ s) =
      x.afterResult c₁ result₁ (x.afterResult c₂ result₂ s) := by
  have htaints (c : CertificateKey) (result : VerificationResult) :
      x.taints c result s.invalidated = x.taints c result s := taints_congr rfl rfl rfl
  simp only [afterResult]
  by_cases h₁ : x.taints c₁ result₁ s = true <;> by_cases h₂ : x.taints c₂ result₂ s = true <;>
    simp [h₁, h₂, htaints]

/-- Two plans of a registry for different certificates can be put in in either order. -/
theorem put_planFor_comm (hx : x.Filed) (hne : cert₁.key ≠ cert₂.key)
    (hatt : att₁.fileKey ≠ att₂.fileKey) :
    (x.put (x.planFor maximum₁ cert₁ att₁ result₁).changes).put
        (x.planFor maximum₂ cert₂ att₂ result₂).changes =
      (x.put (x.planFor maximum₂ cert₂ att₂ result₂).changes).put
        (x.planFor maximum₁ cert₁ att₁ result₁).changes := by
  have h₁ : x.Declines (x.put (x.planFor maximum₁ cert₁ att₁ result₁).changes) :=
    declines_put_planFor hx hx (.refl x)
  have h₂ : x.Declines (x.put (x.planFor maximum₂ cert₂ att₂ result₂).changes) :=
    declines_put_planFor hx hx (.refl x)
  refine SameTrust.eq ⟨?_, ?_, ?_, ?_⟩ (by simp) (by simp) (by simp) (by simp)
  · intro k
    simp only [find?_certificates_put_planFor]
    by_cases hk : k = cert₁.key
    · rw [if_pos hk, if_neg (hk ▸ hne), if_pos hk]
    · simp [hk]
  · intro k
    simp only [find?_attempts_put_planFor]
    by_cases hk : k = att₁.fileKey
    · rw [if_pos hk, if_neg (hk ▸ hatt), if_pos hk]
    · simp [hk]
  · intro k
    rw [find?_signatures_put_planFor hx h₁, find?_signatures_put_planFor hx h₂,
      find?_signatures_put_planFor hx (.refl x), find?_signatures_put_planFor hx (.refl x)]
    cases x.signatures.find? k with
    | none => simp only [Option.map_none]
    | some s =>
      simp only [Option.map_some, afterResult_put]
      rw [afterResult_comm]
  · intro p
    simp only [find?_signingStates_put_planFor_of_declines hx h₁,
      find?_signingStates_put_planFor_of_declines hx h₂,
      find?_signingStates_put_planFor_of_declines hx (.refl x)]
    by_cases hp : p ∈ x.hit cert₁.key result₁ <;> simp [hp]

/-- The certificate on file and the pending attempt that a message speaks of. -/
structure Pending (x : Registry) (m : CertificateMessage) (cert : Certificate)
    (att : VerificationAttempt) : Prop where
  certificate : x.certificates.find? m.certificateKey = some cert
  attempt : x.attempts.find? (m.certificateKey, m.validationId) = some att
  undecided : att.status = none

theorem resolves_iff : x.Resolves m ↔ ∃ cert att, x.Pending m cert att := by
  rw [Resolves, SortedMap.contains_iff]
  constructor
  · rintro ⟨⟨cert, hc⟩, att, ha, hpend⟩
    exact ⟨cert, att, hc, ha, hpend⟩
  · rintro ⟨cert, att, hc, ha, hpend⟩
    exact ⟨⟨cert, hc⟩, att, ha, hpend⟩

theorem Pending.plan?_eq (h : x.Pending m cert att) (hx : x.Filed) :
    x.plan? maximum m result = some (x.planFor maximum cert att result) :=
  (plan?_eq_some_iff hx).2 ⟨cert, att, h.certificate, h.attempt, h.undecided, rfl⟩

theorem Pending.settle_eq (h : x.Pending m cert att) (hx : x.Filed) :
    x.settle maximum m result = x.put (x.planFor maximum cert att result).changes := by
  rw [settle, h.plan?_eq hx, Option.elim_some]

/-- A plan that is out of date is accepted and settles the registry as it is now. -/
theorem Pending.commit (h : y.Pending m cert att) (hx : x.Filed) (hy : y.Filed)
    (hd : x.Declines y) :
    y.commit (x.planFor maximum cert att result).changes = .ok (y.settle maximum m result) := by
  have hck : cert.key = m.certificateKey := hy.certificates.key_eq h.certificate
  have hak : att.fileKey = (m.certificateKey, m.validationId) := hy.attempts.key_eq h.attempt
  have hcont : y.certificates.contains cert.key = true :=
    SortedMap.contains_iff.2 ⟨cert, hck ▸ h.certificate⟩
  rw [commit_planFor hx hd hcont (hak ▸ h.attempt) h.undecided, put_planFor_stale hx hy hd,
    h.settle_eq hy]

theorem declines_settle (hx : x.Filed) (m : CertificateMessage) :
    x.Declines (x.settle maximum m result) := by
  by_cases hr : x.Resolves m
  · obtain ⟨cert, att, h⟩ := resolves_iff.1 hr
    rw [h.settle_eq hx]
    exact declines_put_planFor hx hx (.refl x)
  · rw [settle, (plan?_eq_none_iff hx).2 hr]
    exact .refl x

/-- A result for one certificate leaves what is pending for another. -/
theorem Pending.settle_of_ne (h : x.Pending m cert att) (hx : x.Filed) {m' : CertificateMessage}
    (hne : m.certificateKey ≠ m'.certificateKey) :
    (x.settle maximum m' result).Pending m cert att := by
  by_cases hr : x.Resolves m'
  · obtain ⟨cert', att', h'⟩ := resolves_iff.1 hr
    have hck : cert'.key = m'.certificateKey := hx.certificates.key_eq h'.certificate
    have hak : att'.fileKey = (m'.certificateKey, m'.validationId) :=
      hx.attempts.key_eq h'.attempt
    rw [h'.settle_eq hx]
    refine ⟨?_, ?_, h.undecided⟩
    · rw [find?_certificates_put_planFor, if_neg (hck ▸ hne)]
      exact h.certificate
    · rw [find?_attempts_put_planFor, if_neg]
      · exact h.attempt
      · rw [hak]
        exact fun heq => hne (congrArg Prod.fst heq)
  · rw [settle, (plan?_eq_none_iff hx).2 hr]
    exact h

/-- Results for different certificates settle a registry in either order. -/
theorem settle_comm {m₁ m₂ : CertificateMessage} (hx : x.Filed)
    (hne : m₁.certificateKey ≠ m₂.certificateKey) (h₁ : x.Resolves m₁) (h₂ : x.Resolves m₂) :
    (x.settle maximum₁ m₁ result₁).settle maximum₂ m₂ result₂ =
      (x.settle maximum₂ m₂ result₂).settle maximum₁ m₁ result₁ := by
  obtain ⟨cert₁, att₁, h₁⟩ := resolves_iff.1 h₁
  obtain ⟨cert₂, att₂, h₂⟩ := resolves_iff.1 h₂
  have hkey : cert₁.key ≠ cert₂.key := by
    rw [hx.certificates.key_eq h₁.certificate, hx.certificates.key_eq h₂.certificate]
    exact hne
  have hatt : att₁.fileKey ≠ att₂.fileKey := by
    rw [hx.attempts.key_eq h₁.attempt, hx.attempts.key_eq h₂.attempt]
    exact fun heq => hne (congrArg Prod.fst heq)
  have hy₁ : (x.settle maximum₁ m₁ result₁).Filed := hx.settle m₁
  have hy₂ : (x.settle maximum₂ m₂ result₂).Filed := hx.settle m₂
  rw [(h₂.settle_of_ne hx hne.symm).settle_eq hy₁, (h₁.settle_of_ne hx hne).settle_eq hy₂,
    ← put_planFor_stale hx hy₁ (declines_settle hx m₁),
    ← put_planFor_stale hx hy₂ (declines_settle hx m₂), h₁.settle_eq hx, h₂.settle_eq hx]
  exact put_planFor_comm hx hkey hatt

end Registry

end Admission
