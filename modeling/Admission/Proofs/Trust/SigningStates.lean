import Admission.Proofs.Registry.Status
import Admission.Proofs.Session.Run
import Admission.Proofs.Trust.Effect

/-!
Signing states say what the signatures say. A package is recorded as invalid exactly if it is on
record and has an invalid signature, and a package with one is on record. A result that is saved
takes signatures down and records exactly the packages that it hits (`hasInvalid_put_planFor`), so
that stays true over every run (`signingConsistent_run`).
-/

namespace Admission

namespace Registry

/-- Whether a package has an invalid signature. -/
def HasInvalid (r : Registry) (p : PackageKey) : Prop :=
  ∃ s ∈ r.signatures.values, s.packageKey = p ∧ s.status = .invalid

instance (r : Registry) (p : PackageKey) : Decidable (r.HasInvalid p) :=
  inferInstanceAs (Decidable (∃ s ∈ r.signatures.values, _ ∧ _))

/-- What is recorded of packages is what their signatures say. -/
structure SigningConsistent (r : Registry) : Prop where
  stored : ∀ st ∈ r.signingStates.values, st.signingStatus = .invalid ↔ r.HasInvalid st.packageKey
  owned : ∀ s ∈ r.signatures.values, s.status = .invalid →
    r.signingStates.contains s.packageKey = true

variable {r r' : Registry} {maximum : UInt32} {cert : Certificate} {att : VerificationAttempt}
  {result : VerificationResult}

/-- Consistency is about signatures and signing states. -/
theorem SigningConsistent.congr (h : r.SigningConsistent) (hsig : r'.signatures = r.signatures)
    (hst : r'.signingStates = r.signingStates) : r'.SigningConsistent := by
  constructor
  · rw [hst]
    simp only [HasInvalid, hsig]
    exact h.stored
  · rw [hst, hsig]
    exact h.owned

/-- The packages with an invalid signature after a result are those from before and those hit. -/
theorem hasInvalid_put_planFor (h : r.Filed) (p : PackageKey) :
    (r.put (r.planFor maximum cert att result).changes).HasInvalid p ↔
      r.HasInvalid p ∨ p ∈ r.hit cert.key result := by
  simp only [HasInvalid, values_signatures_put_planFor h, List.mem_map]
  constructor
  · rintro ⟨s', ⟨s, hs, rfl⟩, hp, hi⟩
    rw [(r.afterResult_fields s).2.1] at hp
    by_cases hold : s.status = .invalid
    · exact .inl ⟨s, hs, hp, hold⟩
    · have ht := (afterResult_status_iff.1 hi).resolve_left hold
      exact .inr (mem_hit.2 ⟨s, hs, Signature.valid_of_ne hold, ht, hp⟩)
  · intro hor
    have hafter (s : Signature) (hs : s ∈ r.signatures.values) (hp : s.packageKey = p)
        (hi : s.status = .invalid ∨ r.taints cert.key result s = true) :
        ∃ s', (∃ s ∈ r.signatures.values, r.afterResult cert.key result s = s') ∧
          s'.packageKey = p ∧ s'.status = .invalid :=
      ⟨_, ⟨s, hs, rfl⟩, (r.afterResult_fields s).2.1.trans hp, afterResult_status_iff.2 hi⟩
    rcases hor with ⟨s, hs, hp, hi⟩ | hhit
    · exact hafter s hs hp (.inl hi)
    · obtain ⟨s, hs, -, ht, hp⟩ := mem_hit.1 hhit
      exact hafter s hs hp (.inr ht)

/-- A result that is put in leaves the signing states consistent. -/
theorem SigningConsistent.put_planFor (hc : r.SigningConsistent) (h : r.Filed) :
    (r.put (r.planFor maximum cert att result).changes).SigningConsistent := by
  have hfind (p : PackageKey) :
      (r.put (r.planFor maximum cert att result).changes).signingStates.find? p =
        if p ∈ r.hit cert.key result then some ⟨p, .invalid⟩ else r.signingStates.find? p :=
    find?_signingStates_put_planFor h h (.refl r) p
  constructor
  · intro st hst
    rw [(h.put _).signingStates.mem_values_iff, hfind] at hst
    rw [hasInvalid_put_planFor h]
    split at hst
    · rename_i hhit
      rw [← Option.some.inj hst]
      exact iff_of_true rfl (.inr hhit)
    · rename_i hhit
      rw [hc.stored st (SortedMap.mem_values_iff.2 ⟨_, hst⟩), or_iff_left hhit]
  · intro s hs hi
    have hinv := (hasInvalid_put_planFor h s.packageKey).1 ⟨s, hs, rfl, hi⟩
    rw [SortedMap.contains_iff, hfind]
    split
    · exact ⟨_, rfl⟩
    · rename_i hhit
      obtain ⟨s₀, hs₀, hp, hi₀⟩ := hinv.resolve_right hhit
      rw [← SortedMap.contains_iff, ← hp]
      exact hc.owned s₀ hs₀ hi₀

theorem SigningConsistent.settle (hc : r.SigningConsistent) (h : r.Filed) (m : CertificateMessage) :
    (r.settle maximum m result).SigningConsistent := by
  rw [Registry.settle]
  cases hp : r.plan? maximum m result with
  | none => exact hc
  | some plan =>
    obtain ⟨cert, att, -, -, -, rfl⟩ := (plan?_eq_some_iff h).1 hp
    exact hc.put_planFor h

end Registry

namespace Session

theorem signingConsistent_step {s : Session} (hc : s.registry.SigningConsistent)
    (h : s.registry.Filed) (w : Work) : (s.step w).registry.SigningConsistent := by
  have hev := evolving s w
  generalize (s.step w).registry = r at hev ⊢
  cases hev with
  | stayed => exact hc
  | updated hr =>
    have hsame := Registry.Undisturbed.of_updateStatus hr
    exact hc.congr hsame.signatures hsame.signingStates
  | settled maximum m result => exact hc.settle h m

/-- Where signing states say what the signatures say, they do so after every run. -/
theorem signingConsistent_run (s : Session) (h : s.registry.Filed)
    (hc : s.registry.SigningConsistent) (ws : List Work) :
    (s.run ws).registry.SigningConsistent := by
  induction ws generalizing s with
  | nil => exact hc
  | cons w ws ih => exact ih (s.step w) (filed_step h w) (signingConsistent_step hc h w)

end Session

/-- Both certificates of the entangled registry lose trust, the first one at the second attempt. -/
def Work.distrust : List Work :=
  [.setFaults [("commit", ⟨.conflict, "busy"⟩)], .save 5 ⟨1, .ofDigit 1⟩ (.revoked .epoch),
    .setFaults [], .save 5 ⟨1, .ofDigit 1⟩ (.revoked .epoch),
    .handle (.new .zero 3) ⟨.ofDigit 1, "Alpha", "1.0"⟩, .save 5 ⟨2, .ofDigit 2⟩ .invalid]

theorem Session.signingConsistent_run_distrust :
    Session.entangled.registry.Filed ∧ Session.entangled.registry.SigningConsistent ∧
      (Session.entangled.run Work.distrust).registry.signingStates.values =
        [⟨100, .invalid⟩, ⟨101, .invalid⟩, ⟨102, .invalid⟩] ∧
        (Session.entangled.run Work.distrust).registry.SigningConsistent := by
  have hf : Session.entangled.registry.Filed := Registry.filed_ofSnapshot _
  have hc : Session.entangled.registry.SigningConsistent := ⟨by decide, by decide⟩
  exact ⟨hf, hc, by decide +kernel, signingConsistent_run .entangled hf hc Work.distrust⟩

end Admission
