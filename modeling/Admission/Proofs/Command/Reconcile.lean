import Admission.Command.Reconcile
import Admission.Proofs.Command.Attempt
import Admission.Proofs.Command.Services
import Admission.Proofs.Config.Acceptance
import Admission.Proofs.Files.PackageStore
import Admission.Proofs.Registry.Status
import Admission.Proofs.Reloading

/-!
What a promotion by the command leaves in the files. Publishing copies the validation copy to the
public directory, sets the status and removes the validation copy (`Publishes`); then the registry
goes into the snapshot file. Nothing keeps the three paths apart, so the published file stays only
where neither the clean-up nor the snapshot lands on it (`reconcile_publishes_iff`).
-/

namespace Admission.Command

open Machine

variable {st : PackageStore} {policy : Policy} {set : ValidationSet} {p : Package} {r r' : Registry}
  {t t' : FileTree} {content : ByteArray}

/-- From the one registry and files to the other a package is published: its validation copy, with
    that content, is written to the public directory, the package becomes available, and the
    validation copy is removed if it can be. -/
structure Publishes (st : PackageStore) (p : Package) (content : ByteArray) (r : Registry)
    (t : FileTree) (r' : Registry) (t' : FileTree) : Prop where
  copied : t.read (st.validationPath p.id p.normalizedVersion) = .ok content
  available : r.updateStatus p .available true = .ok r'
  written : ∃ written, (t.createDirectories st.published).1.write
      (st.publicPath p.id p.normalizedVersion) content = .ok written ∧
    written.Clears (st.validationPath p.id p.normalizedVersion) t'

/-! ### Publishing -/

theorem ends_downloadValidationCopy (st : PackageStore) (p : Package) (r : Registry)
    (t : FileTree) :
    Ends ((reconcileServices host st).downloadValidationCopy p) r t fun a r' t' =>
      (∀ content, a = .ok content →
        t.read (st.validationPath p.id p.normalizedVersion) = .ok content) ∧ r = r' ∧ t = t' := by
  rintro s rfl
  exact ⟨fun content h => mapError_eq_ok_iff.1 h, rfl, rfl⟩

theorem ends_savePublicCopy (st : PackageStore) (p : Package) (content : ByteArray) (r : Registry)
    (t : FileTree) :
    Ends ((reconcileServices host st).savePublicCopy p content) r t fun a r' t' =>
      r = r' ∧ (a = .ok () → (t.createDirectories st.published).1.write
        (st.publicPath p.id p.normalizedVersion) content = .ok t') := by
  rintro s rfl
  obtain ⟨files, hs, -, hok⟩ :=
    PackageStore.files_savePublicCopy st p.id p.normalizedVersion content s
  refine ⟨rfl, fun ha => ?_⟩
  change _ = Except.ok (st.savePublicCopy host p.id p.normalizedVersion content s).2.files
  rw [hs]
  exact hok ha

theorem ends_updateStatus (p : Package) (status : PackageStatus) (r : Registry) (t : FileTree) :
    Ends ((reconcileServices host st).updateStatus p status true) r t fun a r' t' =>
      t = t' ∧ (a = .ok () → r.updateStatus p status true = .ok r') := by
  rintro s rfl
  show _ ∧ _
  simp only [reconcileServices, change]
  cases r.updateStatus p status true with
  | error e => exact ⟨rfl, fun h => by cases h⟩
  | ok r' => exact ⟨rfl, fun _ => rfl⟩

theorem ends_cleanUp (st : PackageStore) (p : Package) (r : Registry) (t : FileTree) :
    Ends (cleanUp (reconcileServices host st) p) r t fun _ r' t' =>
      r = r' ∧ t.Clears (st.validationPath p.id p.normalizedVersion) t' := by
  have hdelete : Ends ((reconcileServices host st).deleteValidationCopy p.id p.normalizedVersion)
      r t fun _ r' t' => r = r' ∧ t.Clears (st.validationPath p.id p.normalizedVersion) t' := by
    rintro s rfl
    obtain ⟨files, hs, hclears⟩ := PackageStore.files_removeIfPresent
      (st.validationPath p.id p.normalizedVersion) p.id p.normalizedVersion s
    refine ⟨rfl, ?_⟩
    change s.files.Clears _ (st.deleteValidationCopy host p.id p.normalizedVersion s).2.files
    rw [PackageStore.deleteValidationCopy, hs]
    exact hclears
  refine hdelete.bind ?_
  rintro a _ t' ⟨rfl, h⟩
  cases a with
  | ok => exact ends_pure ⟨rfl, h⟩
  | error e => exact (idle_log _).ends fun _ => ⟨rfl, h⟩

theorem ends_publish (st : PackageStore) (p : Package) (r : Registry) (t : FileTree) :
    Ends (publish (reconcileServices host st) p) r t fun a r' t' =>
      a = .ok () → ∃ content, Publishes st p content r t r' t' := by
  refine (ends_downloadValidationCopy st p r t).bind ?_
  rintro a _ _ ⟨hread, rfl, rfl⟩
  cases a with
  | error e => exact ends_pure nofun
  | ok content =>
    refine (ends_savePublicCopy st p content r t).bind ?_
    rintro a _ written ⟨rfl, hwrite⟩
    cases a with
    | error e => exact ends_pure nofun
    | ok =>
      refine (ends_updateStatus p .available r written).bind ?_
      rintro a r' _ ⟨rfl, hstatus⟩
      cases a with
      | error e => exact (ends_anyhow _ _ _).bind fun _ _ _ _ => ends_pure nofun
      | ok =>
        refine (idle_log _).ends_bind fun _ => (ends_cleanUp st p r' written).bind ?_
        rintro _ _ t' ⟨rfl, hremove⟩
        exact ends_pure fun _ =>
          ⟨content, hread content rfl, hstatus rfl, written, hwrite rfl, hremove⟩

/-! ### Reconciling -/

theorem idle_tellOwner (notice : Notice) (p : Package) :
    Idle (tellOwner (reconcileServices host st) notice p) :=
  (idle_logged _).bind fun a => by
    cases a with
    | ok => exact idle_pure ()
    | error e => exact idle_log _

theorem ends_promote (st : PackageStore) (p : Package) (r : Registry) (t : FileTree) :
    Ends (promote (reconcileServices host st) p) r t fun a r' t' =>
      ∀ x, a.2 = .ok x → ∃ content, Publishes st p content r t r' t' := by
  refine (ends_publish st p r t).bind ?_
  intro a r' t' h
  cases a with
  | error e => exact ends_pure fun _ h => nomatch h
  | ok => exact (idle_tellOwner _ _).ends_bind fun _ => ends_pure fun _ _ => h rfl

theorem ends_reject (resolved : List ResolvedValidation) :
    Ends (reject (reconcileServices host st) resolved p) r t fun a _ _ =>
      ∀ x, a.2 = .ok x → a.1.status = .failedValidation := by
  refine (ends_updateStatus p .failedValidation r t).bind ?_
  intro a r' t' _
  cases a with
  | error e => exact ends_pure fun _ h => nomatch h
  | ok => exact (idle_tellOwner _ _).ends_bind fun _ => ends_pure fun _ _ => rfl

theorem ends_awaitRecheck (resolved : List ResolvedValidation) :
    Ends (awaitRecheck (reconcileServices host st) policy set resolved p) r t fun a _ _ =>
      a.1 = p := by
  refine (idle_onHost fun _ => rfl).ends_bind fun now => ?_
  split
  · exact ends_pure rfl
  · refine (idle_logged _).ends_bind fun a => ?_
    cases a with
    | error e => exact ends_pure rfl
    | ok => exact (idle_log _).ends_bind fun _ => ends_pure rfl

/-- A package that has become available has been published. -/
theorem ends_applyTransition (resolved : List ResolvedValidation) :
    Ends (applyTransition (reconcileServices host st) policy set resolved p) r t fun a r' t' =>
      ∀ x, a.2 = .ok x → p.status ≠ .available → a.1.status = .available →
        ∃ content, Publishes st p content r t r' t' := by
  rw [applyTransition]
  split
  · exact (ends_promote st p r t).mono fun _ _ _ h x hx _ _ => h x hx
  · refine (ends_reject resolved).mono fun a _ _ h x hx _ ha => ?_
    rw [h x hx] at ha
    cases ha
  · refine (ends_awaitRecheck resolved).mono fun a _ _ h x _ hp ha => ?_
    rw [h] at ha
    exact absurd ha hp
  · exact ends_pure fun _ _ hp ha => absurd ha hp

theorem idle_logAll (es : List LogEntry) : Idle (logAll (reconcileServices host st) es) := by
  induction es with
  | nil => exact idle_pure ()
  | cons e es ih => exact (idle_log e).bind fun _ => ih

theorem idle_reportStatus (set : ValidationSet) (old : PackageStatus) (p : Package) :
    Idle (reportStatus (reconcileServices host st) set old p) := by
  rw [reportStatus]
  split
  · exact (idle_log _).bind fun _ => idle_report _
  · exact idle_pure ()

theorem ends_processOutcome (st : PackageStore) (policy : Policy) (set : ValidationSet)
    (p : Package) (r : Registry) (t : FileTree) :
    Ends (processOutcome (reconcileServices host st) policy set p) r t fun a r' t' =>
      ∀ o, a.2 = .ok o → o.previousStatus = p.status ∧
        (p.status ≠ .available → o.status = .available →
          ∃ content, Publishes st p content r t r' t') := by
  refine (idle_logAll _).ends_bind fun _ => (idle_log _).ends_bind fun _ => ?_
  refine (ends_applyTransition _).bind ?_
  rintro ⟨after, result⟩ r' t' h
  split
  · exact ends_pure fun _ h => nomatch h
  · rename_i heq
    obtain ⟨rfl, rfl⟩ := Prod.mk.inj heq
    refine (idle_onHost fun _ => rfl).ends_bind fun _ => (idle_report _).ends_bind fun _ =>
      (idle_reportStatus _ _ _).ends_bind fun _ => ends_pure fun o ho => ?_
    cases result with
    | error e => cases ho
    | ok x =>
      obtain rfl := Except.ok.inj ho
      exact ⟨rfl, h x rfl⟩

/-- A message that makes a package available has published the package that it speaks of. -/
theorem ends_handleMessage (st : PackageStore) (policy : Policy) (m : ValidationMessage)
    (r : Registry) (t : FileTree) :
    Ends (handleMessage (reconcileServices host st) policy m) r t fun a r' t' =>
      ∀ o, a = .ok o → o.previousStatus ≠ .available → o.status = .available →
        ∃ set p content, r.validationSets.find? m.trackingId = some set ∧
          r.package? set.packageId set.packageNormalizedVersion = some p ∧
          p.status = o.previousStatus ∧ Publishes st p content r t r' t' := by
  refine (answers_ask _ r).ends_bind ?_
  cases hset : r.validationSets.find? m.trackingId with
  | none => exact ends_pure fun _ h => nomatch h
  | some set =>
    refine (answers_ask _ r).ends_bind ?_
    cases hp : r.package? set.packageId set.packageNormalizedVersion with
    | none => exact ends_pure fun _ h => nomatch h
    | some p =>
      refine (ends_processOutcome st policy set p r t).bind fun a r' t' h => ends_pure ?_
      intro o ho hprevious hstatus
      obtain ⟨hsame, hpublished⟩ := h o ho
      obtain ⟨content, hcontent⟩ := hpublished (hsame ▸ hprevious) hstatus
      exact ⟨set, p, content, rfl, hp, hsame.symm, hcontent⟩

/-! ### Files -/

theorem Publishes.keepsDirectories (h : Publishes st p content r t r' t') :
    t.KeepsDirectories t' := by
  obtain ⟨written, hwritten, hclears⟩ := h.written
  exact (FileTree.extends_createDirectories t st.published).keepsDirectories.trans
    ((FileTree.keepsDirectories_of_write hwritten).trans hclears.keepsDirectories)

/-- After publishing, and after one more file is written, each of the three paths leads to a place.
    The public copy holds the content if either that file is elsewhere and the validation copy was
    too, or the file has come to have the same content. -/
theorem Publishes.read_public_iff {path : String} {old new : ByteArray} {files : FileTree}
    (h : Publishes st p content r t r' t') (hread : t.read path = .ok old)
    (hwrite : t'.write path new = .ok files) :
    ∃ u v q, files.place? (st.publicPath p.id p.normalizedVersion) = some u ∧
      files.place? (st.validationPath p.id p.normalizedVersion) = some v ∧
      files.place? path = some q ∧
      (files.read (st.publicPath p.id p.normalizedVersion) = .ok content ↔
        if u = q then content = new else u ≠ v) := by
  obtain ⟨written, hwritten, hclears⟩ := h.written
  have hmade := (FileTree.extends_createDirectories t st.published).keepsDirectories
  have hput := FileTree.keepsDirectories_of_write hwritten
  have hcleared := hclears.keepsDirectories
  have hsaved := FileTree.keepsDirectories_of_write hwrite
  obtain ⟨u, hu, -⟩ := FileTree.write_eq_ok_iff.1 hwritten
  obtain ⟨v, hv, -⟩ := FileTree.read_eq_ok_iff.1 h.copied
  obtain ⟨q, hq, -⟩ := FileTree.read_eq_ok_iff.1 hread
  have hu' := hcleared.place? (hput.place? hu)
  have hv' := hput.place? (hmade.place? hv)
  have hq' := hcleared.place? (hput.place? (hmade.place? hq))
  refine ⟨u, v, q, hsaved.place? hu', hsaved.place? (hcleared.place? hv'), hsaved.place? hq', ?_⟩
  have hcopy := FileTree.read_of_write hwritten
  rw [FileTree.read_write_iff hwrite hq' hu', hclears.read_iff hv' (hput.place? hu)]
  simp [hcopy]

/-! ### The command -/

variable {config : Config} {args : ReconcileArguments} {s s' : Machine}
  {outcome : ReconcileOutcome}

/-- The command succeeds where a registry is loaded, the message for the set is handled, and the
    registry can be written back, which is all that happens to the files besides. -/
theorem reconcile_eq_ok_iff {files : FileTree} :
    (∃ s', (reconcile host config args).run s = (.ok outcome, s') ∧ s'.files = files) ↔
      ∃ policy old snap set after s₁, Policy.ofConfig config = .ok policy ∧
        s.files.read args.snapshot = .ok old ∧ Snapshot.ofBytes? old = some snap ∧
        (Registry.ofSnapshot snap).validationSets.find? args.trackingId = some set ∧
        reconcileSet host policy args.store set (.ofSnapshot snap) s = ((.ok outcome, after), s₁) ∧
        s₁.files.write args.snapshot after.snapshot.toBytes = .ok files := by
  obtain ⟨loaded, hload, hloaded⟩ := run_loadSnapshot args.snapshot s
  constructor
  · rintro ⟨s', hrun, rfl⟩
    unfold reconcile at hrun
    obtain ⟨policy, s₀, hrequire, hrun⟩ := run_bind_eq_ok_iff.1 hrun
    obtain ⟨hpolicy, rfl⟩ := Prod.mk.inj hrequire
    obtain ⟨snap, s₀, hload', hrun⟩ := run_bind_eq_ok_iff.1 hrun
    obtain ⟨rfl, rfl⟩ := Prod.mk.inj (hload.symm.trans hload')
    obtain ⟨old, hread, hsnap⟩ := (hloaded snap).1 rfl
    cases hset : (Registry.ofSnapshot snap).validationSets.find? args.trackingId with
    | none =>
      simp only [hset] at hrun
      cases hrun
    | some set =>
      simp only [hset] at hrun
      obtain ⟨⟨result, after⟩, s₁, hlift, hrun⟩ := run_bind_eq_ok_iff.1 hrun
      obtain ⟨_, s₂, hsave, hrun⟩ := run_bind_eq_ok_iff.1 hrun
      obtain ⟨_, s₃, hresult, hrun⟩ := run_bind_eq_ok_iff.1 hrun
      rw [run_lift] at hlift
      obtain ⟨hanswer, hs₁⟩ := Prod.mk.inj hlift
      rcases run_saveSnapshot args.snapshot after.snapshot s₁ with
        ⟨files, hwrite, hsaved⟩ | ⟨e, -, e', hfailed⟩
      · obtain ⟨-, rfl⟩ := Prod.mk.inj (hsaved.symm.trans hsave)
        cases result with
        | error e => cases hresult
        | ok o =>
          cases hresult
          cases hrun
          exact ⟨policy, old, snap, set, after, s₁, mapError_eq_ok_iff.1 hpolicy, hread, hsnap,
            hset, Prod.ext (Except.ok.inj hanswer) hs₁, hwrite⟩
      · cases hfailed.symm.trans hsave
  · rintro ⟨policy, old, snap, set, after, s₁, hpolicy, hread, hsnap, hset, hreconcile, hwrite⟩
    obtain rfl := (hloaded snap).2 ⟨old, hread, hsnap⟩
    rcases run_saveSnapshot args.snapshot after.snapshot s₁ with
      ⟨files', hwrite', hsaved⟩ | ⟨e, hfailed, -⟩
    · obtain rfl := Except.ok.inj (hwrite'.symm.trans hwrite)
      unfold reconcile
      rw [run_bind_of_ok (by rw [run_require, hpolicy]; rfl), run_bind_of_ok hload]
      simp only [hset]
      rw [run_bind_of_ok (by rw [run_lift, hreconcile]), run_bind_of_ok hsaved]
      rw [run_bind_of_ok (run_require _ _ _)]
      exact ⟨_, rfl, rfl⟩
    · cases hfailed.symm.trans hwrite

/-- A command that makes a package available has found it by the set, with a validation copy, and
    leaves it available in the snapshot file. The public path, the validation path and that of the
    snapshot file lead somewhere then, and the public copy has the bytes of the validation copy
    exactly if it lies either apart from both of the others, or in the snapshot file with the same
    bytes. -/
theorem reconcile_publishes_iff (hrun : (reconcile host config args).run s = (.ok outcome, s'))
    (hbefore : outcome.previousStatus ≠ .available) (hafter : outcome.status = .available) :
    ∃ old snap set p content new after u v q,
      s.files.read args.snapshot = .ok old ∧ Snapshot.ofBytes? old = some snap ∧
      (Registry.ofSnapshot snap).validationSets.find? args.trackingId = some set ∧
      (Registry.ofSnapshot snap).package? set.packageId set.packageNormalizedVersion = some p ∧
      p.status = outcome.previousStatus ∧
      s.files.read (args.store.validationPath p.id p.normalizedVersion) = .ok content ∧
      s'.files.read args.snapshot = .ok new ∧ Snapshot.ofBytes? new = some after.snapshot ∧
      Registry.ofSnapshot after.snapshot = after ∧
      after.package? set.packageId set.packageNormalizedVersion =
        some { p with status := .available } ∧
      s'.files.place? (args.store.publicPath p.id p.normalizedVersion) = some u ∧
      s'.files.place? (args.store.validationPath p.id p.normalizedVersion) = some v ∧
      s'.files.place? args.snapshot = some q ∧
      (s'.files.read (args.store.publicPath p.id p.normalizedVersion) = .ok content ↔
        if u = q then content = new else u ≠ v) := by
  obtain ⟨policy, old, snap, set, after, s₁, -, hread, hsnap, hset, hreconcile, hwrite⟩ :=
    reconcile_eq_ok_iff.1 ⟨s', hrun, rfl⟩
  have hfiled := Registry.filed_ofSnapshot snap
  have hhandled := ends_handleMessage args.store policy
    ⟨set.trackingId, set.packageId, set.packageNormalizedVersion⟩ (.ofSnapshot snap) s.files s rfl
  replace hreconcile : handleMessage (reconcileServices host args.store) policy
    ⟨set.trackingId, set.packageId, set.packageNormalizedVersion⟩ (.ofSnapshot snap) s =
      ((.ok outcome, after), s₁) := hreconcile
  rw [hreconcile] at hhandled
  obtain ⟨set', p, content, hset', hp, hstatus, hpublishes⟩ :=
    hhandled outcome rfl hbefore hafter
  have hkey : set.trackingId = args.trackingId := hfiled.validationSets.key_eq hset
  obtain rfl : set = set' := Option.some.inj ((hkey ▸ hset).symm.trans hset')
  have hpackage := Registry.package?_updateStatus hfiled rfl hpublishes.available set.packageId
    set.packageNormalizedVersion
  rw [hp, Option.map_some, if_pos rfl] at hpackage
  have hreloaded := Registry.ofSnapshot_of_lists (hfiled.updateStatus hpublishes.available)
    (Registry.staged_updateStatus hpublishes.available) (Registry.lists_snapshot _)
  obtain ⟨u, v, q, hplaces⟩ := hpublishes.read_public_iff hread hwrite
  exact ⟨old, snap, set, p, content, _, after, u, v, q, hread, hsnap, hset, hp, hstatus,
    hpublishes.copied, FileTree.read_of_write hwrite, Snapshot.ofBytes?_toBytes _, hreloaded,
    hpackage, hplaces⟩

/-- A set with which its package is to be promoted. -/
def succeeded : ValidationSet :=
  ⟨.ofDigit 1, "alpha", "1.0.0", .epoch, [⟨.ofDigit 2, "scan", .succeeded, []⟩]⟩

/-- A snapshot with that set and its package. -/
def promotable : Snapshot :=
  { packages := [⟨1, "Alpha", "1.0", "1.0.0", .validating⟩]
    validationSets := [succeeded]
    certificates := []
    attempts := []
    signatures := []
    timestamps := []
    signingStates := [] }

/-- A machine with that snapshot and the file of the package. -/
def withPromotable : Machine :=
  .start ((FileTree.empty.plant ["registry.json"] (.file promotable.toBytes)).plant
    ["packages", "alpha.1.0.0.nupkg"] (.file "alpha".toUTF8)) [] .epoch

theorem read_withPromotable :
    withPromotable.files.read "registry.json" = .ok promotable.toBytes := rfl

theorem validationSet_promotable :
    (Registry.ofSnapshot promotable).validationSets.find? (.ofDigit 1) = some succeeded := by
  decide +kernel

theorem package_promotable : (Registry.ofSnapshot promotable).package? succeeded.packageId
    succeeded.packageNormalizedVersion = some ⟨1, "Alpha", "1.0", "1.0.0", .validating⟩ := by
  decide +kernel

/-- What reconciling the set under the default policy comes to, given the public directory. -/
def promotion (published : String) :
    (Except ReconcileError ReconcileOutcome × Registry) × Machine :=
  reconcileSet host (.new (.ofSeconds 60) 5) ⟨"packages", published⟩ succeeded
    (.ofSnapshot promotable) withPromotable

theorem run_promotable (published : String)
    (h : (promotion published).1.1 = .ok ⟨.validating, .available, .allSucceeded, none⟩)
    (hfile : (promotion published).2.files.isFile "registry.json" = true) :
    ∃ s', (reconcile host .default ⟨"registry.json", .ofDigit 1, ⟨"packages", published⟩⟩).run
        withPromotable = (.ok ⟨.validating, .available, .allSucceeded, none⟩, s') ∧
      (promotion published).2.files.write "registry.json"
        (promotion published).1.2.snapshot.toBytes = .ok s'.files := by
  generalize hx : promotion published = x at h hfile ⊢
  obtain ⟨⟨result, after⟩, s₁⟩ := x
  obtain rfl : result = _ := h
  dsimp only at hfile ⊢
  obtain ⟨old, hold⟩ : ∃ old, s₁.files.read "registry.json" = .ok old := by
    rw [FileTree.isFile] at hfile
    split at hfile
    · exact ⟨_, ‹_›⟩
    · cases hfile
  obtain ⟨files, hwrite⟩ := FileTree.exists_write_of_read hold after.snapshot.toBytes
  have hpolicy : Policy.ofConfig .default = .ok (.new (.ofSeconds 60) 5) :=
    Policy.ofConfig_eq_ok_iff.2 ⟨Config.validate_eq_ok_iff.2 Config.acceptable_default, rfl⟩
  have hruns : ∃ s', (reconcile host .default
      ⟨"registry.json", .ofDigit 1, ⟨"packages", published⟩⟩).run withPromotable =
        (.ok ⟨.validating, .available, .allSucceeded, none⟩, s') ∧ s'.files = files :=
    reconcile_eq_ok_iff.2 ⟨_, _, promotable, succeeded, after, s₁, hpolicy, read_withPromotable,
      Snapshot.ofBytes?_toBytes _, validationSet_promotable, hx, hwrite⟩
  obtain ⟨s', hrun, rfl⟩ := hruns
  exact ⟨s', hrun, hwrite⟩

/-- With a public directory of its own, here one from the root, the package is published. -/
theorem reconcile_publishes_iff_promotable :
    ∃ s', (reconcile host .default ⟨"registry.json", .ofDigit 1, ⟨"packages", "/srv/public"⟩⟩).run
        withPromotable = (.ok ⟨.validating, .available, .allSucceeded, none⟩, s') ∧
      s'.files.read "/srv/public/alpha.1.0.0.nupkg" = .ok "alpha".toUTF8 := by
  obtain ⟨s', hrun, hwrite⟩ := run_promotable "/srv/public" (by decide +kernel) (by decide +kernel)
  obtain ⟨old, snap, set, p, content, new, after, u, v, q, hread, hsnap, hset, hp, -, hcopied, -, -,
    -, -, hu, hv, hq, hiff⟩ := reconcile_publishes_iff hrun (by decide) rfl
  have hplace {path : String} {place : Place}
      (h : (promotion "/srv/public").2.files.place? path = some place) :
      s'.files.place? path = some place := (FileTree.keepsDirectories_of_write hwrite).place? h
  obtain rfl := Except.ok.inj (read_withPromotable.symm.trans hread)
  obtain rfl := Option.some.inj ((Snapshot.ofBytes?_toBytes promotable).symm.trans hsnap)
  obtain rfl := Option.some.inj (validationSet_promotable.symm.trans hset)
  obtain rfl := Option.some.inj (package_promotable.symm.trans hp)
  have hpublic : PackageStore.publicPath ⟨"packages", "/srv/public"⟩ "Alpha" "1.0.0" =
    "/srv/public/alpha.1.0.0.nupkg" := by decide +kernel
  have hvalidation : PackageStore.validationPath ⟨"packages", "/srv/public"⟩ "Alpha" "1.0.0" =
    "packages/alpha.1.0.0.nupkg" := by decide +kernel
  simp only [hpublic, hvalidation] at hcopied hu hv hiff
  obtain rfl := Except.ok.inj ((show withPromotable.files.read "packages/alpha.1.0.0.nupkg" =
    .ok "alpha".toUTF8 from rfl).symm.trans hcopied)
  obtain rfl : u = ["srv", "public", "alpha.1.0.0.nupkg"] :=
    Option.some.inj (hu.symm.trans (hplace (by decide +kernel)))
  obtain rfl : v = ["work", "packages", "alpha.1.0.0.nupkg"] :=
    Option.some.inj (hv.symm.trans (hplace (by decide +kernel)))
  obtain rfl : q = ["work", "registry.json"] :=
    Option.some.inj (hq.symm.trans (hplace (by decide +kernel)))
  refine ⟨s', hrun, hiff.2 ?_⟩
  rw [if_neg (by decide)]
  decide

/-- With one directory for both copies the clean-up removes what was published. -/
theorem not_reconcile_publishes :
    ¬∀ (config : Config) (args : ReconcileArguments) (s s' : Machine) (outcome : ReconcileOutcome)
      (old : ByteArray) (snap : Snapshot) (set : ValidationSet) (p : Package) (content : ByteArray),
      (reconcile host config args).run s = (.ok outcome, s') →
      outcome.previousStatus ≠ .available → outcome.status = .available →
      s.files.read args.snapshot = .ok old → Snapshot.ofBytes? old = some snap →
      (Registry.ofSnapshot snap).validationSets.find? args.trackingId = some set →
      (Registry.ofSnapshot snap).package? set.packageId set.packageNormalizedVersion = some p →
      s.files.read (args.store.validationPath p.id p.normalizedVersion) = .ok content →
      s'.files.read (args.store.publicPath p.id p.normalizedVersion) = .ok content := by
  intro h
  obtain ⟨s', hrun, hwrite⟩ := run_promotable "packages" (by decide +kernel) (by decide +kernel)
  have hpublic : PackageStore.publicPath ⟨"packages", "packages"⟩ "Alpha" "1.0.0" =
    "packages/alpha.1.0.0.nupkg" := by decide +kernel
  have hread := h _ _ _ _ _ promotable.toBytes promotable succeeded
    ⟨1, "Alpha", "1.0", "1.0.0", .validating⟩ "alpha".toUTF8 hrun (by decide) rfl
    read_withPromotable (Snapshot.ofBytes?_toBytes _) validationSet_promotable package_promotable
    (by decide +kernel)
  have hsnapshot : (promotion "packages").2.files.place? "registry.json" =
    some ["work", "registry.json"] := by decide +kernel
  have hplace : (promotion "packages").2.files.place? "packages/alpha.1.0.0.nupkg" =
    some ["work", "packages", "alpha.1.0.0.nupkg"] := by decide +kernel
  simp only [hpublic] at hread
  rw [FileTree.read_write_iff hwrite hsnapshot hplace, if_neg (by decide)] at hread
  exact absurd hread (by decide +kernel)

end Admission.Command
