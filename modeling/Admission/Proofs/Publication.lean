import Admission.Proofs.Session.Run

/-!
The registry and the public files agree. A package is available exactly if it has a public copy, and
that survives every run over messages, whatever fails: the copy goes up before the status is set and
comes down again if it cannot be, under the one key that no other package has. The half that needs
the copy to come down holds as long as no deletion of a public copy is made to fail.
-/

namespace Admission

namespace Registry

/-- No two packages have the same files. -/
def DistinctFiles (r : Registry) : Prop :=
  ∀ p ∈ r.packages.values, ∀ q ∈ r.packages.values, p.fileKey = q.fileKey → p = q

instance (r : Registry) : Decidable r.DistinctFiles :=
  inferInstanceAs (Decidable (∀ p ∈ r.packages.values, ∀ q ∈ r.packages.values, _ → _))

/-- What the files of the available packages are kept under. -/
def offered (r : Registry) : List FileKey :=
  (r.packages.values.filter fun p => p.status == .available).map (·.fileKey)

/-- A package has a new status and all others are as they were. -/
def Marks (r : Registry) (p : Package) (status : PackageStatus) (r' : Registry) : Prop :=
  ∀ q, q ∈ r'.packages.values ↔ q = { p with status } ∨ q ∈ r.packages.values ∧ q.key ≠ p.key

variable {r r' : Registry} {p : Package} {status : PackageStatus}

theorem mem_offered {k : FileKey} :
    k ∈ r.offered ↔ ∃ p ∈ r.packages.values, p.status = .available ∧ p.fileKey = k := by
  simp [offered, and_assoc]

/-- A package on file that is not available has its files to itself. -/
theorem DistinctFiles.not_offered (h : r.DistinctFiles) (hp : p ∈ r.packages.values)
    (hst : p.status ≠ .available) : p.fileKey ∉ r.offered := by
  rw [mem_offered]
  rintro ⟨q, hq, ha, hk⟩
  obtain rfl := h q hq p hp hk
  exact hst ha

/-- Setting the status of a package on file changes that package and no other. -/
theorem marks_updateStatus (h : r.Filed) (hs : r.staged = []) (hp : p ∈ r.packages.values)
    (hr : r.updateStatus p status true = .ok r') : r'.staged = [] ∧ r.Marks p status r' := by
  rw [updateStatus_of_staged_nil hs (h.packages.mem_values_iff.1 hp)] at hr
  obtain rfl := Except.ok.inj hr
  exact ⟨hs, fun q => h.packages.mem_values_insert (v := { p with status }) rfl⟩

theorem DistinctFiles.marks (h : r.DistinctFiles) (hp : p ∈ r.packages.values)
    (hm : r.Marks p status r') : r'.DistinctFiles := by
  intro q₁ h₁ q₂ h₂ hk
  rcases (hm q₁).1 h₁ with rfl | ⟨h₁, hne₁⟩
  · rcases (hm q₂).1 h₂ with rfl | ⟨h₂, hne₂⟩
    · rfl
    · exact absurd (congrArg Package.key (h p hp q₂ h₂ hk)).symm hne₂
  · rcases (hm q₂).1 h₂ with rfl | ⟨h₂, hne₂⟩
    · exact absurd (congrArg Package.key (h q₁ h₁ p hp hk)) hne₁
    · exact h q₁ h₁ q₂ h₂ hk

/-- After a status is set, the package that was not available is so if that is its status now. -/
theorem Marks.mem_offered_iff (hm : r.Marks p status r') (h : r.Filed) (hp : p ∈ r.packages.values)
    (hst : p.status ≠ .available) (k : FileKey) :
    k ∈ r'.offered ↔ status = .available ∧ k = p.fileKey ∨ k ∈ r.offered := by
  rw [mem_offered, mem_offered]
  constructor
  · rintro ⟨q, hq, ha, hk⟩
    rcases (hm q).1 hq with rfl | ⟨hq, -⟩
    · exact .inl ⟨ha, hk.symm⟩
    · exact .inr ⟨q, hq, ha, hk⟩
  · rintro (⟨ha, rfl⟩ | ⟨q, hq, ha, hk⟩)
    · exact ⟨{ p with status }, (hm _).2 (.inl rfl), ha, rfl⟩
    · refine ⟨q, (hm q).2 (.inr ⟨hq, ?_⟩), ha, hk⟩
      intro hkey
      obtain rfl := h.packages.eq_of_key_eq hq hp hkey
      exact hst ha

end Registry

/-- Whether a call is to delete a public copy. -/
def Call.deletesPublicCopy : Call → Bool
  | .deletePublicCopy .. => true
  | _ => false

namespace Session

/-- Every package that is available has a public copy. -/
def OffersPublished (s : Session) : Prop :=
  ∀ k ∈ s.registry.offered, s.publicFiles.contains k = true

/-- Every public copy belongs to a package that is available. -/
def PublishesOffered (s : Session) : Prop :=
  ∀ k, s.publicFiles.contains k = true → k ∈ s.registry.offered

/-- Whether a piece of work tries to delete a public copy and is made to fail. -/
def DeletionFails (s : Session) (w : Work) : Prop :=
  ∃ c ∈ s.callsOf w, c.deletesPublicCopy = true ∧ s.fault? c ≠ none

instance (s : Session) (w : Work) : Decidable (s.DeletionFails w) :=
  inferInstanceAs (Decidable (∃ c ∈ s.callsOf w, _ ∧ _))

/-- No deletion of a public copy is made to fail. -/
def DeletionsSucceed : Session → List Work → Prop
  | _, [] => True
  | s, w :: ws => ¬s.DeletionFails w ∧ (s.step w).DeletionsSucceed ws

instance decidableDeletionsSucceed : ∀ (s : Session) (ws : List Work),
    Decidable (s.DeletionsSucceed ws)
  | _, [] => .isTrue trivial
  | s, w :: ws =>
    have := decidableDeletionsSucceed (s.step w) ws
    inferInstanceAs (Decidable (¬s.DeletionFails w ∧ (s.step w).DeletionsSucceed ws))

/-- What every step keeps: packages stand under their keys with files of their own, nothing is
    staged, and the available ones have their public copies. -/
structure Sound (s : Session) : Prop where
  filed : s.registry.Filed
  staged : s.registry.staged = []
  distinct : s.registry.DistinctFiles
  offersPublished : s.OffersPublished

variable {s s' : Session} {p : Package} {w : Work}

theorem Sound.of_registry_eq (h : s.Sound) (hr : s'.registry = s.registry)
    (ho : ∀ k ∈ s.registry.offered, s'.publicFiles.contains k = true) : s'.Sound where
  filed := hr ▸ h.filed
  staged := hr ▸ h.staged
  distinct := hr ▸ h.distinct
  offersPublished k hk := ho k (hr ▸ hk)

theorem Sound.of_updateStatus (h : s.Sound) (hp : p ∈ s.registry.packages.values)
    (hst : p.status ≠ .available) {status : PackageStatus}
    (hr : s.registry.updateStatus p status true = .ok s'.registry)
    (ho : ∀ k, status = .available ∧ k = p.fileKey ∨ k ∈ s.registry.offered →
      s'.publicFiles.contains k = true) : s'.Sound := by
  obtain ⟨hstaged, hmarks⟩ := Registry.marks_updateStatus h.filed h.staged hp hr
  refine ⟨h.filed.updateStatus hr, hstaged, h.distinct.marks hp hmarks, ?_⟩
  intro k hk
  exact ho k ((hmarks.mem_offered_iff h.filed hp hst k).1 hk)

/-- What happens to one package on file keeps the session sound. -/
theorem Sound.moving (h : s.Sound) (hp : p ∈ s.registry.packages.values) (hm : s.Moving p s') :
    s'.Sound := by
  cases hm with
  | stayed hr hf =>
    refine h.of_registry_eq hr ?_
    intro k hk
    rw [hf]
    exact h.offersPublished k hk
  | published hst hr hf =>
    refine h.of_updateStatus hp hst hr ?_
    intro k hk
    rw [hf, SortedMap.contains_insert]
    exact hk.imp And.right (h.offersPublished k)
  | takenBack hst hr hf =>
    refine h.of_registry_eq hr ?_
    intro k hk
    rw [hf, SortedMap.contains_erase, SortedMap.contains_insert]
    refine ⟨?_, .inr (h.offersPublished k hk)⟩
    -- The copy that comes down is not the copy of any package that is available.
    rintro rfl
    exact h.distinct.not_offered hp hst hk
  | leftBehind _ hr hf =>
    refine h.of_registry_eq hr ?_
    intro k hk
    rw [hf, SortedMap.contains_insert]
    exact .inr (h.offersPublished k hk)
  | rejected hst hr hf =>
    refine h.of_updateStatus hp hst hr ?_
    intro k hk
    rw [hf]
    exact h.offersPublished k (hk.resolve_left fun ha => nomatch ha.1)

/-- What happens to one package leaves no public copy astray, unless one cannot be deleted. -/
theorem PublishesOffered.moving (h : s.PublishesOffered) (hs : s.Sound)
    (hp : p ∈ s.registry.packages.values) (hm : s.Moving p s')
    (hd : ∀ c ∈ s'.calls.drop s.calls.length, c.deletesPublicCopy = true → s.fault? c = none) :
    s'.PublishesOffered := by
  cases hm with
  | stayed hr hf =>
    intro k hk
    rw [hf] at hk
    rw [hr]
    exact h k hk
  | published hst hr hf =>
    obtain ⟨-, hmarks⟩ := Registry.marks_updateStatus hs.filed hs.staged hp hr
    intro k hk
    rw [hf, SortedMap.contains_insert] at hk
    rw [hmarks.mem_offered_iff hs.filed hp hst]
    rcases hk with rfl | hk
    · exact .inl ⟨rfl, rfl⟩
    · exact .inr (h k hk)
  | takenBack hst hr hf =>
    intro k hk
    rw [hf, SortedMap.contains_erase, SortedMap.contains_insert] at hk
    rw [hr]
    exact h k (hk.2.resolve_left hk.1)
  | leftBehind _ _ _ hcs hc hf =>
    refine absurd (hd _ ?_ rfl) hf
    rwa [hcs, List.drop_left]
  | rejected hst hr hf =>
    obtain ⟨-, hmarks⟩ := Registry.marks_updateStatus hs.filed hs.staged hp hr
    intro k hk
    rw [hf] at hk
    rw [hmarks.mem_offered_iff hs.filed hp hst]
    exact .inr (h k hk)

/-! ### Steps and runs -/

theorem Sound.step (h : s.Sound) (hw : w.Queued) : (s.step w).Sound := by
  cases w with
  | handle policy m =>
    cases moves_handle policy m s with
    | none hr hf =>
      refine h.of_registry_eq hr ?_
      intro k hk
      rw [Session.step, hf]
      exact h.offersPublished k hk
    | one hp hm => exact h.moving hp hm
  | process => exact hw.elim
  | save maximum m result =>
    obtain ⟨hpkg, hst⟩ := packages_save maximum m result s
    refine ⟨filed_step h.filed (.save maximum m result), hst.trans h.staged, ?_, ?_⟩
    · rw [Registry.DistinctFiles, Session.step, hpkg]
      exact h.distinct
    · intro k hk
      rw [Registry.offered, Session.step, hpkg] at hk
      rw [Session.step, (registry_save maximum m result s).2]
      exact h.offersPublished k hk
  | setClock => exact ⟨h.filed, h.staged, h.distinct, h.offersPublished⟩
  | setFaults => exact ⟨h.filed, h.staged, h.distinct, h.offersPublished⟩
  | submit => exact ⟨h.filed, h.staged, h.distinct, h.offersPublished⟩

theorem Sound.run {ws : List Work} (hws : ∀ w ∈ ws, w.Queued) (h : s.Sound) : (s.run ws).Sound := by
  induction ws generalizing s with
  | nil => exact h
  | cons w ws ih =>
    have hw : w.Queued := hws w List.mem_cons_self
    exact ih (fun v hv => hws v (List.mem_cons_of_mem w hv)) (h.step hw)

theorem PublishesOffered.step (h : s.PublishesOffered) (hs : s.Sound) (hw : w.Queued)
    (hd : ¬s.DeletionFails w) : (s.step w).PublishesOffered := by
  cases w with
  | handle policy m =>
    cases moves_handle policy m s with
    | none hr hf =>
      intro k hk
      rw [Session.step, hf] at hk
      rw [Session.step, hr]
      exact h k hk
    | one hp hm =>
      refine h.moving hs hp hm ?_
      intro c hc hdel
      exact Decidable.byContradiction fun hf => hd ⟨c, hc, hdel, hf⟩
  | process => exact hw.elim
  | save maximum m result =>
    intro k hk
    rw [Session.step, (registry_save maximum m result s).2] at hk
    rw [Registry.offered, Session.step, (packages_save maximum m result s).1]
    exact h k hk
  | setClock => exact h
  | setFaults => exact h
  | submit => exact h

theorem PublishesOffered.run {ws : List Work} (hws : ∀ w ∈ ws, w.Queued) (h : s.PublishesOffered)
    (hs : s.Sound) (hd : s.DeletionsSucceed ws) : (s.run ws).PublishesOffered := by
  induction ws generalizing s with
  | nil => exact h
  | cons w ws ih =>
    have hw : w.Queued := hws w List.mem_cons_self
    exact ih (fun v hv => hws v (List.mem_cons_of_mem w hv)) (h.step hs hw hd.1) (hs.step hw) hd.2

/-- Where the public files hold a copy for exactly the packages that are available, they keep one
    for each of these over every run, and while no deletion of a public copy is made to fail, none
    for any other. -/
theorem run_keeps_publications (s : Session) (hf : s.registry.Filed) (hst : s.registry.staged = [])
    (hd : s.registry.DistinctFiles)
    (hp : ∀ k, s.publicFiles.contains k = true ↔ k ∈ s.registry.offered) (ws : List Work)
    (hws : ∀ w ∈ ws, w.Queued) :
    (s.run ws).OffersPublished ∧ (s.DeletionsSucceed ws → (s.run ws).PublishesOffered) := by
  have hs : s.Sound := ⟨hf, hst, hd, fun k => (hp k).2⟩
  have ho : s.PublishesOffered := fun k => (hp k).1
  exact ⟨(hs.run hws).offersPublished, ho.run hws hs⟩

end Session

/-! ### Two packages that differ only in case -/

/-- A package that is available and two under validation that differ in the case of a letter, where
    the set on file names them in a third way. -/
def Registry.twins : Registry := .ofSnapshot
  { Snapshot.empty with
    packages := [⟨1, "Alpha", "1.0", "1.0.0", .available⟩, ⟨2, "Beta", "1.0", "1.0.0", .validating⟩,
      ⟨3, "beta", "1.0", "1.0.0", .validating⟩]
    validationSets := [⟨.ofDigit 1, "BETA", "1.0.0", .epoch,
      [⟨.ofDigit 2, "scan", .succeeded, []⟩]⟩] }

/-- A session on the twins in which the available package has its public copy. -/
def Session.twins : Session :=
  { Session.start .twins .empty .epoch with
    publicFiles := .ofList [(("Alpha", "1.0.0"), ⟨#[1]⟩)] }

/-- Publishing the first twin, at first with a status that cannot be set, and later with an owner
    who cannot be told. -/
def Work.publishTwin : List Work :=
  [.submit "Beta" "1.0.0" ⟨#[2]⟩, .setFaults [("update_package_status", ⟨.conflict, "busy"⟩)],
    .handle (.new .zero 3) ⟨.ofDigit 1, "beta", "1.0"⟩, .setFaults [("notify", ⟨.other, "away"⟩)],
    .setClock .epoch, .save 3 ⟨1, .ofDigit 1⟩ .good,
    .handle (.new .zero 3) ⟨.ofDigit 1, "beta", "1.0"⟩]

theorem Session.run_keeps_publications_twins :
    Session.twins.registry.Filed ∧ Session.twins.registry.staged = [] ∧
      Session.twins.registry.DistinctFiles ∧
        (∀ k, Session.twins.publicFiles.contains k = true ↔ k ∈ Session.twins.registry.offered) ∧
          (∀ w ∈ Work.publishTwin, w.Queued) ∧
            (Session.twins.run Work.publishTwin).registry.offered =
              [("Alpha", "1.0.0"), ("Beta", "1.0.0")] ∧
              (Session.twins.run Work.publishTwin).OffersPublished ∧
                (Session.twins.run Work.publishTwin).PublishesOffered := by
  have hf : Session.twins.registry.Filed := Registry.filed_ofSnapshot _
  have hd : Session.twins.registry.DistinctFiles := by decide +kernel
  have hp (k : FileKey) : Session.twins.publicFiles.contains k = true ↔
      k ∈ Session.twins.registry.offered := by
    have hkeys : Session.twins.publicFiles.keys = Session.twins.registry.offered := by
      decide +kernel
    rw [← SortedMap.mem_keys_iff, hkeys]
  have hws : ∀ w ∈ Work.publishTwin, w.Queued := by simp [Work.publishTwin, Work.Queued]
  have ho : (Session.twins.run Work.publishTwin).registry.offered =
      [("Alpha", "1.0.0"), ("Beta", "1.0.0")] := by decide +kernel
  have hdel : Session.twins.DeletionsSucceed Work.publishTwin := by decide +kernel
  have h := run_keeps_publications .twins hf rfl hd hp Work.publishTwin hws
  exact ⟨hf, rfl, hd, hp, hws, ho, h.1, h.2 hdel⟩

end Admission
