import Admission.Proofs.Content
import Admission.Proofs.Lifecycle

/-!
Reconciling with a copy of a package that is out of date. What is done is decided from the copy,
while the status is set and the public copy taken back on file. So a package that is available stays
available with its public copy exactly unless a set fails and the failure is recorded
(`MarksFailed`), or its publication is repeated, its status cannot be set and the public copy comes
down (`TakesBack`). Neither happens to a copy that is up to date (`process_of_available`), and so
neither happens in runs over messages as long as one is handled after the other.
-/

namespace Admission.Session

/-- Reconciling a copy records the failure of its set. -/
def MarksFailed (s : Session) (policy : Policy) (set : ValidationSet) (p : Package) : Prop :=
  nextTransition p.status (classify (policy.resolve set)) = .reject ∧
    s.fault? (.updateStatus p .failedValidation true) = none

/-- The public copy goes up and comes down again because the status cannot be set. -/
def RollsBack (s : Session) (p : Package) : Prop :=
  (∃ content, s.validationFiles.find? p.fileKey = some content ∧ s.Copies p content) ∧
    s.fault? (.updateStatus p .available true) ≠ none ∧
      s.fault? (.deletePublicCopy p.id p.normalizedVersion) = none

/-- Reconciling a copy publishes it and rolls that back. -/
def TakesBack (s : Session) (policy : Policy) (set : ValidationSet) (p : Package) : Prop :=
  nextTransition p.status (classify (policy.resolve set)) = .promote ∧ s.RollsBack p

variable {s s' : Session} {policy : Policy} {set : ValidationSet} {p after : Package}

/-- Reconciling a copy that is up to date leaves an available package alone. -/
theorem process_of_available (policy : Policy) (set : ValidationSet) (s : Session)
    (h : p.status = .available) :
    (process policy set p s).2.registry = s.registry ∧
      (process policy set p s).2.validationFiles = s.validationFiles ∧
        (process policy set p s).2.publicFiles = s.publicFiles := by
  cases (processing policy set p s).storing with
  | left hr hv hp => exact ⟨hr, hv, hp⟩
  | tried hst => exact absurd h hst
  | rejected hst => exact absurd h hst
  | published hst => exact absurd h hst

/-- The registry refuses no package on file, so that only a failure keeps its status from being
    set. -/
theorem RefusesStatus.fault {status : PackageStatus} {e : RegistryError}
    (h : s.RefusesStatus p status e) (hp : s.registry.packages.contains p.key = true) :
    s.fault? (.updateStatus p status true) ≠ none := by
  refine h.resolve_right fun hr => ?_
  rw [Registry.updateStatus_eq_ok_iff.2 ⟨hp, rfl⟩] at hr
  cases hr

section Publishing

variable {answer : Except ReconcileError Unit}

theorem Publishing.status? (h : Publishing s p answer s')
    (ha : s.registry.status? p.key = some .available) :
    s'.registry.status? p.key = some .available := by
  cases h with
  | published _ _ hu => exact Registry.status?_updateStatus_self hu
  | _ => exact ha

theorem Publishing.contains_publicFiles (h : Publishing s p answer s')
    (hp : s.registry.packages.contains p.key = true)
    (hc : s.publicFiles.contains p.fileKey = true) :
    s'.publicFiles.contains p.fileKey = true ↔ ¬s.RollsBack p := by
  have hinsert (content : ByteArray) :
      (s.publicFiles.insert p.fileKey content).contains p.fileKey = true :=
    (SortedMap.contains_insert ..).2 (.inl rfl)
  cases h with
  | undownloaded hd =>
    refine iff_of_true hc ?_
    rintro ⟨⟨content, hv, hs⟩, -⟩
    rcases hd with hd | hd
    · exact hd hs.1
    · rw [hv] at hd
      cases hd
  | unsaved hv hs =>
    refine iff_of_true hc ?_
    rintro ⟨⟨content, hv', hs'⟩, -⟩
    obtain rfl := Option.some.inj (hv.symm.trans hv')
    exact hs hs'.2
  | takenBack hv hs hu hd =>
    refine iff_of_false ?_ (not_not_intro ⟨⟨_, hv, hs⟩, hu.fault hp, hd⟩)
    exact fun h => ((SortedMap.contains_erase ..).1 h).1 rfl
  | leftBehind _ _ hd => exact iff_of_true (hinsert _) fun h => hd h.2.2
  | published _ hf => exact iff_of_true (hinsert _) fun h => h.2.1 hf

end Publishing

/-- What a reconciliation keeps of a package that is available with a public copy. -/
structure KeepsExactly (s : Session) (policy : Policy) (set : ValidationSet) (p : Package)
    (s' : Session) : Prop where
  status : s'.registry.status? p.key = some .available ↔ ¬s.MarksFailed policy set p
  copy : s'.publicFiles.contains p.fileKey = true ↔ ¬s.TakesBack policy set p

section Transitions

variable {t : Transition}

theorem not_marksFailed (ht : nextTransition p.status (classify (policy.resolve set)) = t)
    (hne : t ≠ .reject) : ¬s.MarksFailed policy set p :=
  fun h => hne (ht.symm.trans h.1)

theorem not_takesBack (ht : nextTransition p.status (classify (policy.resolve set)) = t)
    (hne : t ≠ .promote) : ¬s.TakesBack policy set p :=
  fun h => hne (ht.symm.trans h.1)

theorem keepsExactly_of_kept (ht : nextTransition p.status (classify (policy.resolve set)) = t)
    (hr : t ≠ .reject) (hp : t ≠ .promote) (ha : s'.registry.status? p.key = some .available)
    (hc : s'.publicFiles.contains p.fileKey = true) : s.KeepsExactly policy set p s' :=
  ⟨iff_of_true ha (not_marksFailed ht hr), iff_of_true hc (not_takesBack ht hp)⟩

end Transitions

theorem Publishing.keepsExactly {answer : Except ReconcileError Unit}
    (h : Publishing s p answer s')
    (ht : nextTransition p.status (classify (policy.resolve set)) = .promote)
    (ha : s.registry.status? p.key = some .available)
    (hc : s.publicFiles.contains p.fileKey = true) : s.KeepsExactly policy set p s' := by
  refine ⟨iff_of_true (h.status? ha) (not_marksFailed ht nofun), ?_⟩
  rw [h.contains_publicFiles (Registry.contains_of_status?_eq_some ha) hc, TakesBack,
    and_iff_right ht]

theorem Applying.keepsExactly {answer : Except ReconcileError (Option Instant)}
    (h : Applying s policy set p after answer s')
    (ha : s.registry.status? p.key = some .available)
    (hc : s.publicFiles.contains p.fileKey = true) : s.KeepsExactly policy set p s' := by
  cases h with
  | unchanged ht => exact keepsExactly_of_kept ht nofun nofun ha hc
  | unpublished ht hpub => exact hpub.keepsExactly ht ha hc
  | promoted ht hpub =>
    obtain ⟨hstatus, hcopy⟩ := hpub.keepsExactly ht ha hc
    exact ⟨hstatus, hcopy⟩
  | unrejected ht hu =>
    have hfault := hu.fault (Registry.contains_of_status?_eq_some ha)
    exact ⟨iff_of_true ha fun h => hfault h.2, iff_of_true hc (not_takesBack ht nofun)⟩
  | rejected ht _ hf hu =>
    refine ⟨iff_of_false ?_ (not_not_intro ⟨ht, hf⟩), iff_of_true hc (not_takesBack ht nofun)⟩
    have hstatus := Registry.status?_updateStatus_self hu
    exact fun h => nomatch hstatus.symm.trans h
  | beyond ht => exact keepsExactly_of_kept ht nofun nofun ha hc
  | unscheduled ht => exact keepsExactly_of_kept ht nofun nofun ha hc
  | scheduled ht => exact keepsExactly_of_kept ht nofun nofun ha hc

theorem Processing.keepsExactly {answer : Except ReconcileError ReconcileOutcome}
    (h : Processing s policy set p after answer s')
    (ha : s.registry.status? p.key = some .available)
    (hc : s.publicFiles.contains p.fileKey = true) : s.KeepsExactly policy set p s' := by
  cases h with
  | beyond happly =>
    obtain ⟨hst, hcopy⟩ := happly.keepsExactly ha hc
    exact ⟨hst, hcopy⟩
  | reported _ happly =>
    obtain ⟨hst, hcopy⟩ := happly.keepsExactly ha hc
    exact ⟨hst, hcopy⟩

/-- Whatever status the copy at hand has, a package that is available stays so exactly unless the
    copy is marked as failed, and it keeps its public copy exactly unless that is taken back. -/
theorem process_keeps_iff (policy : Policy) (set : ValidationSet) (p : Package) (s : Session)
    (hp : s.registry.packages.find? p.key = some p) (ha : p.status = .available)
    (hc : s.publicFiles.contains p.fileKey = true) (stale : PackageStatus) :
    let copy := { p with status := stale }
    let s' := (process policy set copy s).2
    (s'.registry.status? p.key = some .available ↔ ¬s.MarksFailed policy set copy) ∧
      (s'.publicFiles.contains p.fileKey = true ↔ ¬s.TakesBack policy set copy) := by
  intro copy s'
  have hst : s.registry.status? copy.key = some .available := by
    rw [show copy.key = p.key from rfl, Registry.status?_of_find? hp, ha]
  obtain ⟨hstatus, hcopy⟩ := (processing policy set copy s).keepsExactly hst hc
  exact ⟨hstatus, hcopy⟩

/-! ### Two reconciliations that overlap -/

/-- A package is published, though its validation copy cannot be deleted, while somebody else holds
    the copy of it that was on file before. -/
def overtaken : Session :=
  (process (.new .zero 3) (.scanned .succeeded) ⟨7, "Alpha", "1.0", "1.0.0", .validating⟩
    { onTrial with
      validationFiles := .ofList [(("Alpha", "1.0.0"), ⟨#[1]⟩)]
      faults := [("delete_validation_copy", ⟨.other, "busy"⟩)] }).2

/-- The same when a status cannot be set any more. -/
def overtakenBusy : Session :=
  { overtaken with faults := [("update_package_status", ⟨.conflict, "busy"⟩)] }

/-- The second reconciliation takes back what the first one published, and the package remains
    available without a public copy. -/
theorem process_keeps_iff_overtakenBusy :
    let p : Package := ⟨7, "Alpha", "1.0", "1.0.0", .available⟩
    let s' := (process (.new .zero 3) (.scanned .succeeded) { p with status := .validating }
      overtakenBusy).2
    overtakenBusy.registry.packages.find? p.key = some p ∧ p.status = .available ∧
      overtakenBusy.publicFiles.contains p.fileKey = true ∧
        s'.registry.status? p.key = some .available ∧
          ¬s'.publicFiles.contains p.fileKey = true := by
  intro p s'
  have hp : overtakenBusy.registry.packages.find? p.key = some p := by decide +kernel
  have hc : overtakenBusy.publicFiles.contains p.fileKey = true := by decide +kernel
  obtain ⟨hst, hcopy⟩ := process_keeps_iff (.new .zero 3) (.scanned .succeeded) p overtakenBusy hp
    rfl hc .validating
  have hpromote : nextTransition .validating
      (classify ((Policy.new .zero 3).resolve (.scanned .succeeded))) = .promote := by
    decide +kernel
  have hfound : overtakenBusy.validationFiles.find? p.fileKey = some ⟨#[1]⟩ := by decide +kernel
  refine ⟨hp, rfl, hc, hst.2 ?_, fun h => hcopy.1 h ?_⟩
  · exact fun h => nomatch hpromote.symm.trans h.1
  · exact ⟨hpromote, ⟨⟨#[1]⟩, hfound, rfl, rfl⟩, nofun, rfl⟩

/-- Where the copy at hand is out of date, a package that is available need not stay so. -/
theorem not_process_keeps_available :
    ¬∀ (policy : Policy) (set : ValidationSet) (p : Package) (s : Session),
      s.registry.packages.find? p.key = some p → p.status = .available →
        s.publicFiles.contains p.fileKey = true → ∀ stale : PackageStatus,
          let s' := (process policy set { p with status := stale } s).2
          s'.registry.status? p.key = some .available ∧
            s'.publicFiles.contains p.fileKey = true := by
  intro h
  have hkept := h (.new .zero 3) (.scanned .failed) ⟨7, "Alpha", "1.0", "1.0.0", .available⟩
    overtaken (by decide +kernel) rfl (by decide +kernel) .validating
  have hlost : (process (.new .zero 3) (.scanned .failed)
      ⟨7, "Alpha", "1.0", "1.0.0", .validating⟩ overtaken).2.registry.status? 7 =
        some .failedValidation := by
    decide +kernel
  exact nomatch hlost.symm.trans hkept.1

end Admission.Session
