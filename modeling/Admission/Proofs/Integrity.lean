import Mathlib.Data.List.Sort
import Admission.Proofs.Registry.Status
import Admission.Proofs.Session.Run

/-!
The integrity of a registry, whatever is done with it. Statuses are set and changes committed by
whoever likes, also changes that nobody planned; beside that a session goes on with its work. No
entry comes in or goes out by any of it, what is not meant to change does not, and a verification
attempt that has a result keeps it (`Preserves`). It all comes down to what a commit asks of the
registry before it puts anything in (`commit_eq_ok_iff`).
-/

namespace Admission

namespace SortedMap

variable {κ ν ν' : Type} [Ord κ] [Std.TransOrd κ] [Std.LawfulEqOrd κ]

/-- Maps that file something under the same keys have the same keys in the same order. -/
theorem keys_eq_of_contains {m : SortedMap κ ν} {m' : SortedMap κ ν'}
    (h : ∀ k, m'.contains k = m.contains k) : m'.keys = m.keys := by
  have : Std.Irrefl fun a b : κ => compare a b = .lt := ⟨fun a => by simp⟩
  have : Std.Antisymm fun a b : κ => compare a b = .lt :=
    ⟨fun a b hab hba => by simp [Std.OrientedCmp.gt_iff_lt.2 hab] at hba⟩
  refine m'.pairwise_keys.eq_of_mem_iff m.pairwise_keys fun k => ?_
  rw [mem_keys_iff, mem_keys_iff, h]

variable [DecidableEq κ]

/-- To file a value where there is one already brings in no key. -/
theorem keys_insert {m : SortedMap κ ν} {k : κ} (v : ν) (h : m.contains k = true) :
    (m.insert k v).keys = m.keys := by
  refine keys_eq_of_contains fun k' => Bool.eq_iff_iff.2 ?_
  rw [contains_insert]
  constructor
  · rintro (rfl | hk')
    · exact h
    · exact hk'
  · exact .inr

theorem keys_foldl_insert (key : ν → κ) {l : List ν} {m : SortedMap κ ν}
    (h : ∀ v ∈ l, m.contains (key v) = true) :
    (l.foldl (fun m v => m.insert (key v) v) m).keys = m.keys := by
  induction l generalizing m with
  | nil => rfl
  | cons v l ih =>
    have hv : (m.insert (key v) v).keys = m.keys := keys_insert v (h v List.mem_cons_self)
    rw [List.foldl_cons, ih, hv]
    intro w hw
    rw [← mem_keys_iff, hv, mem_keys_iff]
    exact h w (List.mem_cons_of_mem v hw)

end SortedMap

namespace Registry

variable {r r' r'' : Registry} {c : TrustChanges} {p : Package} {status : PackageStatus}
  {commit : Bool}

/-! ### What a commit asks -/

/-- What changes name is on file, and their attempt is pending. -/
structure Fits (r : Registry) (c : TrustChanges) : Prop where
  certificate : r.certificates.contains c.certificate.key = true
  attempt : ∃ att, r.attempts.find? c.attempt.fileKey = some att ∧ att.isPending = true
  signatures : ∀ s ∈ c.invalidatedSignatures, r.signatures.contains s.key = true

theorem commitError?_eq_none_iff : r.commitError? c = none ↔ r.Fits c := by
  rw [commitError?]
  constructor
  · intro h
    split at h
    · cases h
    · rename_i hc
      split at h
      · cases h
      · rename_i att ha
        split at h
        · cases h
        · rename_i hp
          rw [Option.map_eq_none_iff, List.find?_eq_none] at h
          exact ⟨by simpa using hc, ⟨att, ha, by simpa using hp⟩, by simpa using h⟩
  · rintro ⟨hc, ⟨att, ha, hp⟩, hs⟩
    have hfind : (c.invalidatedSignatures.find? fun s => !r.signatures.contains s.key) = none := by
      simpa [List.find?_eq_none] using hs
    simp [hc, ha, hp, hfind]

/-- Changes are committed exactly if they fit, and then whole. -/
theorem commit_eq_ok_iff : r.commit c = .ok r' ↔ r.Fits c ∧ r' = r.put c := by
  rw [← commitError?_eq_none_iff, Registry.commit]
  cases r.commitError? c with
  | none => simp [eq_comm]
  | some e => simp

/-- For an attempt that has a result, nothing is committed. -/
theorem commit_of_not_pending {att : VerificationAttempt}
    (ha : r.attempts.find? c.attempt.fileKey = some att) (hp : att.isPending = false) :
    r.commit c = .error
      (if r.certificates.contains c.certificate.key then
        .conflict (.attemptHasResult c.attempt.validationId)
      else .certificateNotFound c.certificate.key) := by
  rw [Registry.commit, commitError?, ha]
  cases r.certificates.contains c.certificate.key <;> simp [hp]

/-! ### What stays -/

/-- The later registry has the same entries under the same keys. Of a package only the status may be
    another, of an attempt only one that is pending; sets and timestamps are the same. -/
structure Preserves (r r' : Registry) : Prop where
  packageKeys : r'.packages.keys = r.packages.keys
  packages : ∀ k p, r.packages.find? k = some p →
    ∃ status, r'.packages.find? k = some { p with status }
  validationSets : r'.validationSets = r.validationSets
  certificateKeys : r'.certificates.keys = r.certificates.keys
  attemptKeys : r'.attempts.keys = r.attempts.keys
  attempts : ∀ k att, r.attempts.find? k = some att → att.isPending = false →
    r'.attempts.find? k = some att
  signatureKeys : r'.signatures.keys = r.signatures.keys
  timestamps : r'.timestamps = r.timestamps

theorem Preserves.refl (r : Registry) : r.Preserves r where
  packageKeys := rfl
  packages _ p hp := ⟨p.status, hp⟩
  validationSets := rfl
  certificateKeys := rfl
  attemptKeys := rfl
  attempts _ _ ha _ := ha
  signatureKeys := rfl
  timestamps := rfl

theorem Preserves.trans (h : r.Preserves r') (h' : r'.Preserves r'') : r.Preserves r'' where
  packageKeys := h'.packageKeys.trans h.packageKeys
  packages k p hp := by
    obtain ⟨status, hs⟩ := h.packages k p hp
    exact h'.packages k { p with status } hs
  validationSets := h'.validationSets.trans h.validationSets
  certificateKeys := h'.certificateKeys.trans h.certificateKeys
  attemptKeys := h'.attemptKeys.trans h.attemptKeys
  attempts k att ha hp := h'.attempts k att (h.attempts k att ha hp) hp
  signatureKeys := h'.signatureKeys.trans h.signatureKeys
  timestamps := h'.timestamps.trans h.timestamps

theorem preserves_setStatus (changes : List (PackageKey × PackageStatus))
    (staged : List (PackageKey × PackageStatus)) :
    r.Preserves { r with packages := changes.foldl setStatus r.packages, staged } :=
  { Preserves.refl r with
    packageKeys := SortedMap.keys_eq_of_contains (contains_foldl_setStatus changes r.packages)
    packages := fun _ _ hp => ⟨_, by rw [find?_foldl_setStatus, hp, Option.map_some]⟩ }

theorem preserves_saveChanges (r : Registry) : r.Preserves r.saveChanges :=
  preserves_setStatus r.staged []

theorem preserves_updateStatus (h : r.updateStatus p status commit = .ok r') :
    r.Preserves r' := by
  rw [updateStatus] at h
  split at h
  · obtain rfl := Except.ok.inj h
    cases commit with
    | false => exact preserves_setStatus [] _
    | true => exact preserves_setStatus (r.staged ++ [(p.key, status)]) []
  · cases h

/-- Changes that fit bring no entry in, and the attempt that they are about had no result. -/
theorem Fits.preserves (h : r.Fits c) : r.Preserves (r.put c) where
  packageKeys := rfl
  packages _ p hp := ⟨p.status, hp⟩
  validationSets := rfl
  certificateKeys := SortedMap.keys_insert c.certificate h.certificate
  attemptKeys := by
    obtain ⟨att, ha, -⟩ := h.attempt
    exact SortedMap.keys_insert c.attempt (SortedMap.contains_iff.2 ⟨att, ha⟩)
  attempts k att ha hp := by
    obtain ⟨att', ha', hp'⟩ := h.attempt
    have hk : k ≠ c.attempt.fileKey := by
      rintro rfl
      rw [ha, Option.some.injEq] at ha'
      rw [ha', hp'] at hp
      cases hp
    exact (SortedMap.find?_insert_of_ne _ _ hk).trans ha
  signatureKeys := SortedMap.keys_foldl_insert Signature.key h.signatures
  timestamps := rfl

theorem preserves_commit (h : r.commit c = .ok r') : r.Preserves r' := by
  obtain ⟨hfits, rfl⟩ := commit_eq_ok_iff.1 h
  exact hfits.preserves

theorem Filed.preserves_settle (h : r.Filed) (maximum : UInt32) (m : CertificateMessage)
    (result : VerificationResult) : r.Preserves (r.settle maximum m result) := by
  rw [Registry.settle]
  cases hp : r.plan? maximum m result with
  | none => exact .refl r
  | some plan => exact preserves_commit (commit_of_plan? h hp)

end Registry

/-! ### Operations -/

/-- What can be done with a registry: what it does itself, and what sessions do with it. -/
inductive Operation where
  | updateStatus (package : Package) (status : PackageStatus) (commit : Bool)
  | saveChanges
  | commit (changes : TrustChanges)
  | work (w : Work)

namespace Session

variable {s : Session}

/-- The session with a changed registry, or as it was if the change is refused. -/
def changed (s : Session) : Except RegistryError Registry → Session
  | .ok registry => s.withRegistry registry
  | .error _ => s

/-- The session after an operation. -/
def operate (s : Session) : Operation → Session
  | .updateStatus p status commit => s.changed (s.registry.updateStatus p status commit)
  | .saveChanges => s.withRegistry s.registry.saveChanges
  | .commit c => s.changed (s.registry.commit c)
  | .work w => s.step w

/-- The session after some operations, one after another. -/
def operations (s : Session) (os : List Operation) : Session := os.foldl operate s

/-- What a piece of work makes of a registry preserves it. -/
theorem Evolving.preserves {r r' : Registry} (h : Evolving r r') (hf : r.Filed) :
    r.Preserves r' := by
  cases h with
  | stayed => exact .refl r
  | updated hr => exact Registry.preserves_updateStatus hr
  | settled maximum m result => exact hf.preserves_settle maximum m result

theorem changed_preserves {x : Except RegistryError Registry}
    (h : ∀ r, x = .ok r → s.registry.Preserves r) :
    s.registry.Preserves (s.changed x).registry := by
  cases x with
  | error e => exact .refl s.registry
  | ok r => exact h r rfl

theorem filed_changed {x : Except RegistryError Registry} (hs : s.registry.Filed)
    (h : ∀ r, x = .ok r → r.Filed) : (s.changed x).registry.Filed := by
  cases x with
  | error e => exact hs
  | ok r => exact h r rfl

theorem filed_operate (h : s.registry.Filed) (o : Operation) : (s.operate o).registry.Filed := by
  cases o with
  | updateStatus p status commit => exact filed_changed h fun _ => h.updateStatus
  | saveChanges => exact h.saveChanges
  | commit c =>
    refine filed_changed h fun r hr => ?_
    obtain rfl := Registry.put_of_commit hr
    exact h.put c
  | work w => exact filed_step h w

theorem preserves_operate (h : s.registry.Filed) (o : Operation) :
    s.registry.Preserves (s.operate o).registry := by
  cases o with
  | updateStatus p status commit =>
    exact changed_preserves fun _ => Registry.preserves_updateStatus
  | saveChanges => exact Registry.preserves_saveChanges s.registry
  | commit c => exact changed_preserves fun _ => Registry.preserves_commit
  | work w => exact (evolving s w).preserves h

theorem filed_operations (h : s.registry.Filed) (os : List Operation) :
    (s.operations os).registry.Filed := by
  induction os generalizing s with
  | nil => exact h
  | cons o os ih => exact ih (filed_operate h o)

theorem preserves_operations (h : s.registry.Filed) (os : List Operation) :
    s.registry.Preserves (s.operations os).registry := by
  induction os generalizing s with
  | nil => exact .refl s.registry
  | cons o os ih => exact (preserves_operate h o).trans (ih (filed_operate h o))

/-- A registry that comes from a snapshot keeps its entries under their own keys whatever is done
    with it, none comes in or goes out, and what is not meant to change does not. An attempt that
    has a result keeps just this result from then on, and whoever commits anything for it is refused
    and changes nothing. -/
theorem operations_keep_integrity (s : Session) (t : Snapshot) (h : s.registry = .ofSnapshot t)
    (earlier later : List Operation) :
    let s₁ := s.operations earlier
    let s₂ := s₁.operations later
    s₂.registry.Filed ∧ s₁.registry.Preserves s₂.registry ∧
      ∀ k att status, s₁.registry.attempts.find? k = some att → att.status = some status →
        s₂.registry.attempts.find? k = some att ∧
          ∀ c : TrustChanges, c.attempt.fileKey = k →
            s₂.registry.commit c = .error
                (if s₂.registry.certificates.contains c.certificate.key then
                  .conflict (.attemptHasResult c.attempt.validationId)
                else .certificateNotFound c.certificate.key) ∧
              s₂.operate (.commit c) = s₂ := by
  intro s₁ s₂
  have hf₀ : s.registry.Filed := h ▸ Registry.filed_ofSnapshot t
  have hf₁ : s₁.registry.Filed := filed_operations hf₀ earlier
  have hkeeps : s₁.registry.Preserves s₂.registry := preserves_operations hf₁ later
  refine ⟨filed_operations hf₁ later, hkeeps, fun k att status ha hstatus => ?_⟩
  have hp : att.isPending = false := by rw [VerificationAttempt.isPending, hstatus]; rfl
  have ha₂ := hkeeps.attempts k att ha hp
  refine ⟨ha₂, fun c hc => ?_⟩
  subst hc
  have hrefused := Registry.commit_of_not_pending ha₂ hp
  refine ⟨hrefused, ?_⟩
  rw [operate, hrefused]
  rfl

/-- What somebody commits without a plan: another certificate under the same key, a result for its
    first attempt, and a signature that has moved to another package. -/
def unplanned (status : Option CertificateStatus) : TrustChanges :=
  ⟨⟨7, "other", .good, 9, none⟩, ⟨.ofDigit 1, 7, status⟩, [⟨10, 2, 8, .invalid⟩], [⟨5, .invalid⟩]⟩

theorem operations_keep_integrity_unplanned :
    let t : Snapshot :=
      { Snapshot.empty with
        packages := [⟨1, "Unplanned", "1.0", "1.0.0", .validating⟩]
        certificates := [⟨7, "first", .unknown, 0, none⟩]
        attempts := [⟨.ofDigit 1, 7, none⟩, ⟨.ofDigit 2, 7, none⟩]
        signatures := [⟨10, 1, 7, .valid⟩] }
    let s : Session := .start (.ofSnapshot t) .empty .epoch
    let s₁ := s.operations [.updateStatus ⟨1, "", "", "", .available⟩ .failedValidation false,
      .commit (unplanned (some .revoked))]
    let s₂ := s₁.operations [.commit (unplanned none), .work (.save 5 ⟨7, .ofDigit 2⟩ .invalid),
      .saveChanges]
    s.registry = .ofSnapshot t ∧
      s₁.registry.attempts.find? (7, .ofDigit 1) = some ⟨.ofDigit 1, 7, some .revoked⟩ ∧
        s₂.registry.Filed ∧ s₁.registry.Preserves s₂.registry ∧
          s₂.registry.packages.find? 1 =
              some ⟨1, "Unplanned", "1.0", "1.0.0", .failedValidation⟩ ∧
            s₂.registry.attempts.find? (7, .ofDigit 1) = some ⟨.ofDigit 1, 7, some .revoked⟩ ∧
              s₂.registry.commit (unplanned (some .good)) =
                  .error (.conflict (.attemptHasResult (.ofDigit 1))) ∧
                s₂.operate (.commit (unplanned (some .good))) = s₂ := by
  intro t s s₁ s₂
  have ha : s₁.registry.attempts.find? (7, .ofDigit 1) = some ⟨.ofDigit 1, 7, some .revoked⟩ := by
    decide +kernel
  have hp : s₂.registry.packages.find? 1 =
      some ⟨1, "Unplanned", "1.0", "1.0.0", .failedValidation⟩ := by decide +kernel
  obtain ⟨hf, hkeeps, hresult⟩ := operations_keep_integrity s t rfl
    [.updateStatus ⟨1, "", "", "", .available⟩ .failedValidation false,
      .commit (unplanned (some .revoked))]
    [.commit (unplanned none), .work (.save 5 ⟨7, .ofDigit 2⟩ .invalid), .saveChanges]
  obtain ⟨ha₂, hrefused⟩ := hresult _ _ _ ha rfl
  obtain ⟨hcommit, hsame⟩ := hrefused (unplanned (some .good)) rfl
  have hc : s₂.registry.certificates.contains 7 = true := by decide +kernel
  exact ⟨rfl, ha, hf, hkeeps, hp, ha₂, hcommit.trans (congrArg Except.error (if_pos hc)), hsame⟩

end Session

end Admission
