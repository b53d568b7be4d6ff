import Admission.Proofs.Publication
import Admission.Proofs.Session.Rounds

/-!
No submitted content is lost. The content of a package is where its status says: among the
validation copies until it is available, and with the public copies from then on (`Stored`). Every
round keeps it so whatever fails, as long as nobody submits other content for the package: the
validation copy goes only after the status is set, which in turn is set only after the same content
has gone up.
-/

namespace Admission

/-- Whether a round submits nothing but the content under a key. -/
def Round.Spares (k : FileKey) (c : ByteArray) : Round → Prop
  | .work (.submit id version content) => (id, version) = k → content = c
  | _ => True

namespace Session

variable {s s' t : Session} {policy : Policy} {set : ValidationSet} {p q after : Package}
  {c : ByteArray}

/-! ### What a reconciliation does to the stores -/

/-- What a reconciliation of a package can do to the registry and the two stores. -/
inductive Storing (s : Session) (p : Package) (s' : Session) : Prop
  | left (hr : s'.registry = s.registry) (hv : s'.validationFiles = s.validationFiles)
      (hp : s'.publicFiles = s.publicFiles)
  | tried (hst : p.status ≠ .available) (hr : s'.registry = s.registry)
      (hv : s'.validationFiles = s.validationFiles)
      (hp : ∀ k, k ≠ p.fileKey → s'.publicFiles.find? k = s.publicFiles.find? k)
  | rejected (hst : p.status ≠ .available)
      (hr : s.registry.updateStatus p .failedValidation true = .ok s'.registry)
      (hv : s'.validationFiles = s.validationFiles) (hp : s'.publicFiles = s.publicFiles)
  | published {content : ByteArray} (hst : p.status ≠ .available)
      (hc : s.validationFiles.find? p.fileKey = some content)
      (hr : s.registry.updateStatus p .available true = .ok s'.registry)
      (hv : ∀ k, k ≠ p.fileKey → s'.validationFiles.find? k = s.validationFiles.find? k)
      (hp : s'.publicFiles = s.publicFiles.insert p.fileKey content)

/-- Calls and log entries before and after do not matter. -/
theorem Storing.widen {cs : List Call} {ls : List LogEntry} (h : (s.noted cs ls).Storing p s')
    (hr : t.registry = s'.registry) (hv : t.validationFiles = s'.validationFiles)
    (hp : t.publicFiles = s'.publicFiles) : s.Storing p t := by
  cases h with
  | left hr' hv' hp' => exact .left (hr.trans hr') (hv.trans hv') (hp.trans hp')
  | tried hst hr' hv' hp' => exact .tried hst (hr.trans hr') (hv.trans hv') (hp ▸ hp')
  | rejected hst hr' hv' hp' => exact .rejected hst (hr ▸ hr') (hv.trans hv') (hp.trans hp')
  | published hst hc hr' hv' hp' => exact .published hst hc (hr ▸ hr') (hv ▸ hv') (hp.trans hp')

theorem Publishing.storing {answer : Except ReconcileError Unit} (h : Publishing s p answer s')
    (hst : p.status ≠ .available) : s.Storing p s' := by
  cases h with
  | undownloaded => exact .left rfl rfl rfl
  | unsaved => exact .left rfl rfl rfl
  | takenBack =>
    refine .tried hst rfl rfl fun k hk => ?_
    show ((s.publicFiles.insert p.fileKey _).erase p.fileKey).find? k = _
    rw [SortedMap.find?_erase, if_neg hk, SortedMap.find?_insert_of_ne _ _ hk]
  | leftBehind =>
    exact .tried hst rfl rfl fun k hk => SortedMap.find?_insert_of_ne _ _ hk
  | published hc _ hu hv =>
    refine .published hst hc hu (fun k hk => ?_) rfl
    rcases hv with rfl | ⟨-, rfl⟩
    · show (s.validationFiles.erase p.fileKey).find? k = _
      rw [SortedMap.find?_erase, if_neg hk]
    · rfl

theorem Applying.storing {answer : Except ReconcileError (Option Instant)}
    (h : Applying s policy set p after answer s') : s.Storing p s' := by
  cases h with
  | unpublished ht hp => exact hp.storing (status_ne_available ht nofun)
  | promoted ht hp =>
    have hstore := hp.storing (status_ne_available ht nofun)
    rw [← noted_nil s] at hstore
    exact hstore.widen rfl rfl rfl
  | rejected ht _ _ hu => exact .rejected (status_ne_available ht nofun) hu rfl rfl
  | _ => exact .left rfl rfl rfl

theorem Processing.storing {answer : Except ReconcileError ReconcileOutcome}
    (h : Processing s policy set p after answer s') : s.Storing p s' := by
  cases h with
  | beyond ha => exact ha.storing.widen rfl rfl rfl
  | reported _ ha => exact ha.storing.widen rfl rfl rfl

/-- What handling a message can do to the registry and the two stores. -/
inductive Stores (s s' : Session) : Prop
  | none (hr : s'.registry = s.registry) (hv : s'.validationFiles = s.validationFiles)
      (hp : s'.publicFiles = s.publicFiles)
  | one {p : Package} (hp : p ∈ s.registry.packages.values) (h : s.Storing p s')

theorem Handling.stores {m : ValidationMessage} {answer : Except ReconcileError ReconcileOutcome}
    (h : Handling s policy m answer s') : s.Stores s' := by
  cases h with
  | unread => exact .none rfl rfl rfl
  | unknownSet => exact .none rfl rfl rfl
  | unknownPackage => exact .none rfl rfl rfl
  | processed _ hp h => exact .one (Registry.mem_of_package? hp) (h.storing.widen rfl rfl rfl)

theorem Saving.validationFiles {maximum : UInt32} {m : CertificateMessage}
    {result : VerificationResult} {answer : Except TrustError Bool}
    (h : Saving s maximum m result answer s') : s'.validationFiles = s.validationFiles := by
  cases h <;> rfl

/-! ### Where the content of a package is -/

/-- A package is on file, and its content is where its status says. -/
structure Stored (s : Session) (p : Package) (c : ByteArray) : Prop where
  onFile : p ∈ s.registry.packages.values
  offered : p.status = .available → s.publicFiles.find? p.fileKey = some c
  waiting : p.status ≠ .available → s.validationFiles.find? p.fileKey = some c

/-- What every round keeps: the content of a package is where its status says, whatever that is, and
    no other package has the same files. -/
structure Keeping (s : Session) (p : Package) (c : ByteArray) : Prop where
  steady : s.Steady
  distinct : s.registry.DistinctFiles
  stored : ∃ status, s.Stored { p with status } c

theorem Stored.congr (h : s.Stored p c) (hr : s'.registry.packages = s.registry.packages)
    (hv : s'.validationFiles.find? p.fileKey = s.validationFiles.find? p.fileKey)
    (hp : s'.publicFiles.find? p.fileKey = s.publicFiles.find? p.fileKey) : s'.Stored p c :=
  ⟨hr ▸ h.onFile, fun ha => hp.trans (h.offered ha), fun hn => hv.trans (h.waiting hn)⟩

/-- A reconciliation of the package itself moves its content along with its status. -/
theorem Stored.storing_self (h : s.Stored p c) (hs : s.Steady) (hst : s.Storing p s') :
    ∃ status, s'.Stored { p with status } c := by
  cases hst with
  | left hr hv hp => exact ⟨p.status, h.congr (hr ▸ rfl) (hv ▸ rfl) (hp ▸ rfl)⟩
  | tried hst hr hv =>
    exact ⟨p.status, hr ▸ h.onFile, fun ha => absurd ha hst, fun hn => hv ▸ h.waiting hn⟩
  | rejected hst hr hv =>
    obtain ⟨-, hmarks⟩ := Registry.marks_updateStatus hs.filed hs.staged h.onFile hr
    exact ⟨.failedValidation, (hmarks _).2 (.inl rfl), nofun, fun _ => hv ▸ h.waiting hst⟩
  | published hst hc hr _ hp =>
    obtain ⟨-, hmarks⟩ := Registry.marks_updateStatus hs.filed hs.staged h.onFile hr
    rw [h.waiting hst, Option.some.injEq] at hc
    refine ⟨.available, (hmarks _).2 (.inl rfl), fun _ => ?_, fun hn => absurd rfl hn⟩
    rw [hp, ← hc]
    exact SortedMap.find?_insert_self _ _ _

/-- A reconciliation of a package with other files leaves the content where it is. -/
theorem Stored.storing_other (h : s.Stored p c) (hs : s.Steady)
    (hq : q ∈ s.registry.packages.values) (hkey : p.key ≠ q.key) (hfile : p.fileKey ≠ q.fileKey)
    (hst : s.Storing q s') : s'.Stored p c := by
  cases hst with
  | left hr hv hp => exact h.congr (hr ▸ rfl) (hv ▸ rfl) (hp ▸ rfl)
  | tried _ hr hv hp => exact h.congr (hr ▸ rfl) (hv ▸ rfl) (hp _ hfile)
  | rejected _ hr hv hp =>
    obtain ⟨-, hmarks⟩ := Registry.marks_updateStatus hs.filed hs.staged hq hr
    exact ⟨(hmarks _).2 (.inr ⟨h.onFile, hkey⟩), hp ▸ h.offered, hv ▸ h.waiting⟩
  | published _ _ hr hv hp =>
    obtain ⟨-, hmarks⟩ := Registry.marks_updateStatus hs.filed hs.staged hq hr
    refine ⟨(hmarks _).2 (.inr ⟨h.onFile, hkey⟩), fun ha => ?_, fun hn => ?_⟩
    · rw [hp, SortedMap.find?_insert_of_ne _ _ hfile]
      exact h.offered ha
    · rw [hv _ hfile]
      exact h.waiting hn

theorem Storing.distinct (h : s.Storing p s') (hs : s.Steady) (hd : s.registry.DistinctFiles)
    (hp : p ∈ s.registry.packages.values) : s'.registry.DistinctFiles := by
  cases h with
  | left hr => exact hr ▸ hd
  | tried _ hr => exact hr ▸ hd
  | rejected _ hr => exact hd.marks hp (Registry.marks_updateStatus hs.filed hs.staged hp hr).2
  | published _ _ hr => exact hd.marks hp (Registry.marks_updateStatus hs.filed hs.staged hp hr).2

theorem Keeping.storing (h : s.Keeping p c) (hs' : s'.Steady)
    (hq : q ∈ s.registry.packages.values) (hst : s.Storing q s') : s'.Keeping p c := by
  refine ⟨hs', hst.distinct h.steady h.distinct hq, ?_⟩
  obtain ⟨status, hstored⟩ := h.stored
  by_cases hpq : q = { p with status }
  · subst hpq
    exact hstored.storing_self h.steady hst
  · have hkey : p.key ≠ q.key := fun hk =>
      hpq (h.steady.filed.packages.eq_of_key_eq hstored.onFile hq hk).symm
    have hfile : p.fileKey ≠ q.fileKey := fun hk =>
      hpq (h.distinct _ hstored.onFile _ hq hk).symm
    exact ⟨status, hstored.storing_other h.steady hq hkey hfile hst⟩

/-! ### Rounds and runs -/

theorem Keeping.round (h : s.Keeping p c) {t : Round} (ht : t.Queued)
    (hsp : t.Spares p.fileKey c) : (s.round t).Keeping p c := by
  have hsteady := h.steady.round t
  obtain ⟨status, hstored⟩ := h.stored
  cases t with
  | replaceSets => exact ⟨hsteady, h.distinct, status, hstored.congr rfl rfl rfl⟩
  | work w =>
    cases w with
    | handle policy m =>
      cases (handling policy m s).stores with
      | none hr hv hp =>
        refine ⟨hsteady, ?_, status, hstored.congr (congrArg _ hr) (hv ▸ rfl) (hp ▸ rfl)⟩
        exact (congrArg Registry.DistinctFiles hr).mpr h.distinct
      | one hq hst => exact h.storing hsteady hq hst
    | process => exact ht.elim
    | save maximum m result =>
      have hpkg := (packages_save maximum m result s).1
      refine ⟨hsteady, ?_, status, hstored.congr hpkg ?_ ?_⟩
      · rw [Registry.DistinctFiles, Session.round, step, hpkg]
        exact h.distinct
      · rw [Session.round, step, (saving maximum m result s).validationFiles]
      · rw [Session.round, step, (registry_save maximum m result s).2]
    | setClock => exact ⟨hsteady, h.distinct, status, hstored.congr rfl rfl rfl⟩
    | setFaults => exact ⟨hsteady, h.distinct, status, hstored.congr rfl rfl rfl⟩
    | submit id version content =>
      refine ⟨hsteady, h.distinct, status, hstored.onFile, hstored.offered, fun hn => ?_⟩
      show (s.validationFiles.insert (id, version) content).find? p.fileKey = some c
      rw [SortedMap.find?_insert]
      split
      · rename_i hk
        rw [hsp hk.symm]
      · exact hstored.waiting hn

theorem Keeping.rounds (h : s.Keeping p c) {ts : List Round} (hts : ∀ t ∈ ts, t.Queued)
    (hsp : ∀ t ∈ ts, t.Spares p.fileKey c) : (s.rounds ts).Keeping p c := by
  induction ts generalizing s with
  | nil => exact h
  | cons t ts ih =>
    have hround := h.round (hts t List.mem_cons_self) (hsp t List.mem_cons_self)
    exact ih hround (fun u hu => hts u (List.mem_cons_of_mem t hu))
      fun u hu => hsp u (List.mem_cons_of_mem t hu)

/-- Over every run in which nobody submits other content for a package that is not available, its
    validation copy stays as it was, or else it is available with that content. -/
theorem rounds_keep_content (s : Session) (hf : s.registry.Filed) (hst : s.registry.staged = [])
    (hd : s.registry.DistinctFiles) (p : Package) (hp : p ∈ s.registry.packages.values)
    (hna : p.status ≠ .available) (c : ByteArray)
    (hc : s.validationFiles.find? p.fileKey = some c) (ts : List Round)
    (hts : ∀ t ∈ ts, t.Queued) (hsp : ∀ t ∈ ts, t.Spares p.fileKey c) :
    (s.rounds ts).validationFiles.find? p.fileKey = some c ∨
      { p with status := .available } ∈ (s.rounds ts).registry.packages.values ∧
        (s.rounds ts).publicFiles.find? p.fileKey = some c := by
  have hkeep : s.Keeping p c :=
    ⟨⟨hf, hst⟩, hd, p.status, hp, fun ha => absurd ha hna, fun _ => hc⟩
  obtain ⟨status, hstored⟩ := (hkeep.rounds hts hsp).stored
  by_cases ha : status = .available
  · subst ha
    exact .inr ⟨hstored.onFile, hstored.offered rfl⟩
  · exact .inl (hstored.waiting ha)

end Session

/-! ### A publication that fails half-way -/

/-- The twins with content for both, in which the case of a letter makes the difference. -/
def Session.twinsAwaiting : Session :=
  { Session.twins with
    validationFiles := .ofList [(("Beta", "1.0.0"), ⟨#[2]⟩), (("beta", "1.0.0"), ⟨#[3]⟩)] }

/-- The public copy of the first twin is left behind before it is published; then somebody submits
    other content for the second one, and the set of the first fails. -/
def Round.publishTwin : List Round :=
  let look : Round := .work (.handle (.new .zero 3) ⟨.ofDigit 1, "beta", "1.0"⟩)
  [.work (.setFaults [("update_package_status", ⟨.conflict, "busy"⟩),
      ("delete_public_copy", ⟨.other, "read-only"⟩)]), look, .work (.setFaults []), look,
    .work (.submit "beta" "1.0.0" ⟨#[4]⟩),
    .replaceSets [⟨.ofDigit 1, "BETA", "1.0.0", .epoch, [⟨.ofDigit 2, "scan", .failed, []⟩]⟩],
    look]

theorem Session.rounds_keep_content_twins :
    let p : Package := ⟨2, "Beta", "1.0", "1.0.0", .validating⟩
    let s := Session.twinsAwaiting.rounds Round.publishTwin
    Session.twinsAwaiting.registry.Filed ∧ Session.twinsAwaiting.registry.staged = [] ∧
      Session.twinsAwaiting.registry.DistinctFiles ∧
        p ∈ Session.twinsAwaiting.registry.packages.values ∧
          Session.twinsAwaiting.validationFiles.find? p.fileKey = some ⟨#[2]⟩ ∧
            (∀ t ∈ Round.publishTwin, t.Queued) ∧
              (∀ t ∈ Round.publishTwin, t.Spares p.fileKey ⟨#[2]⟩) ∧
                s.validationFiles.find? p.fileKey = none ∧
                  { p with status := .available } ∈ s.registry.packages.values ∧
                    s.publicFiles.find? p.fileKey = some ⟨#[2]⟩ := by
  intro p s
  have hf : Session.twinsAwaiting.registry.Filed := Registry.filed_ofSnapshot _
  have hd : Session.twinsAwaiting.registry.DistinctFiles := by decide +kernel
  have hp : p ∈ Session.twinsAwaiting.registry.packages.values := by decide +kernel
  have hc : Session.twinsAwaiting.validationFiles.find? p.fileKey = some ⟨#[2]⟩ := by
    decide +kernel
  have hts : ∀ t ∈ Round.publishTwin, t.Queued := by
    simp [Round.publishTwin, Round.Queued, Work.Queued]
  have hsp : ∀ t ∈ Round.publishTwin, t.Spares p.fileKey ⟨#[2]⟩ := by
    simp [Round.publishTwin, Round.Spares, p, Package.fileKey]
  have hna : p.status ≠ .available := by decide
  have hgone : s.validationFiles.find? p.fileKey = none := by decide +kernel
  have h := rounds_keep_content .twinsAwaiting hf rfl hd p hp hna ⟨#[2]⟩ hc Round.publishTwin hts hsp
  exact ⟨hf, rfl, hd, hp, hc, hts, hsp, hgone, h.resolve_left (by simp [s, hgone])⟩

end Admission
