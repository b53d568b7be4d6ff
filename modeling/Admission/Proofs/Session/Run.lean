import Admission.Proofs.Session.Reconciling
import Admission.Proofs.Session.Saving

/-!
Runs of a session: one piece of work after another, with the clock, the failures and the validation
copies changing in between. Each piece of work comes down to little on the registry and the public
files. Saving a result settles the registry or leaves it (`registry_save`); a reconciliation moves
at most one package (`moving_process`), and for a message that is a package on file
(`moves_handle`). For the registry alone that leaves three things (`evolving`).
-/

namespace Admission

/-- What can happen to a session. -/
inductive Work where
  | handle (policy : Policy) (message : ValidationMessage)
  | process (policy : Policy) (set : ValidationSet) (package : Package)
  | save (maximum : UInt32) (message : CertificateMessage) (result : VerificationResult)
  | setClock (time : Instant)
  | setFaults (faults : List (String × Fault))
  | submit (id version : String) (content : ByteArray)

/-- Whether nobody hands in a package of his own. -/
def Work.Queued : Work → Prop
  | .process .. => False
  | _ => True

namespace Session

/-- The session after one piece of work. -/
def step (s : Session) : Work → Session
  | .handle policy message => (handle policy message s).2
  | .process policy set package => (process policy set package s).2
  | .save maximum message result => (save maximum message result s).2
  | .setClock clock => { s with clock }
  | .setFaults faults => { s with faults }
  | .submit id version content =>
    s.withValidationFiles (s.validationFiles.insert (id, version) content)

/-- The session after some work, one piece after another. -/
def run (s : Session) (ws : List Work) : Session := ws.foldl step s

/-- The calls that a piece of work makes. -/
def callsOf (s : Session) (w : Work) : List Call := (s.step w).calls.drop s.calls.length

variable {s s' : Session} {policy : Policy} {set : ValidationSet} {p after : Package}

/-! ### Saving -/

/-- Saving a result settles the registry or leaves it, and no more. -/
theorem registry_save (maximum : UInt32) (m : CertificateMessage) (result : VerificationResult)
    (s : Session) :
    ((save maximum m result s).2.registry = s.registry ∨
      (save maximum m result s).2.registry = s.registry.settle maximum m result) ∧
      (save maximum m result s).2.publicFiles = s.publicFiles := by
  have hsave := saving maximum m result s
  generalize save maximum m result s = x at hsave ⊢
  obtain ⟨answer, s'⟩ := x
  dsimp only at hsave ⊢
  cases hsave with
  | unread => exact ⟨.inl rfl, rfl⟩
  | unresolved => exact ⟨.inl rfl, rfl⟩
  | refused => exact ⟨.inl rfl, rfl⟩
  | saved _ hp _ hr =>
    obtain rfl := Registry.put_of_commit hr
    refine ⟨.inr ?_, rfl⟩
    rw [Registry.settle, hp]
    rfl

theorem packages_save (maximum : UInt32) (m : CertificateMessage) (result : VerificationResult)
    (s : Session) :
    (save maximum m result s).2.registry.packages = s.registry.packages ∧
      (save maximum m result s).2.registry.staged = s.registry.staged := by
  rcases (registry_save maximum m result s).1 with hr | hr
  · rw [hr]
    exact ⟨rfl, rfl⟩
  · rw [hr]
    exact s.registry.packages_settle m

/-! ### Reconciling -/

/-- What a reconciliation can do to the registry and the public files on account of a package. -/
inductive Moving (s : Session) (p : Package) (s' : Session) : Prop
  | stayed (hr : s'.registry = s.registry) (hf : s'.publicFiles = s.publicFiles)
  | published {content : ByteArray} (hst : p.status ≠ .available)
      (hr : s.registry.updateStatus p .available true = .ok s'.registry)
      (hf : s'.publicFiles = s.publicFiles.insert p.fileKey content)
  | takenBack {content : ByteArray} (hst : p.status ≠ .available) (hr : s'.registry = s.registry)
      (hf : s'.publicFiles = (s.publicFiles.insert p.fileKey content).erase p.fileKey)
  | leftBehind {content : ByteArray} {cs : List Call} (hst : p.status ≠ .available)
      (hr : s'.registry = s.registry)
      (hf : s'.publicFiles = s.publicFiles.insert p.fileKey content)
      (hcs : s'.calls = s.calls ++ cs) (hc : .deletePublicCopy p.id p.normalizedVersion ∈ cs)
      (hd : s.fault? (.deletePublicCopy p.id p.normalizedVersion) ≠ none)
  | rejected (hst : p.status ≠ .available)
      (hr : s.registry.updateStatus p .failedValidation true = .ok s'.registry)
      (hf : s'.publicFiles = s.publicFiles)

/-- Calls and log entries before and after do not matter. -/
theorem Moving.widen {cs : List Call} {ls : List LogEntry} {t : Session}
    (h : (s.noted cs ls).Moving p s') (hr : t.registry = s'.registry)
    (hf : t.publicFiles = s'.publicFiles) (hc : s'.calls <+: t.calls) : s.Moving p t := by
  cases h with
  | stayed hr' hf' => exact .stayed (hr.trans hr') (hf.trans hf')
  | published hst hr' hf' => exact .published hst (hr ▸ hr') (hf.trans hf')
  | takenBack hst hr' hf' => exact .takenBack hst (hr.trans hr') (hf.trans hf')
  | @leftBehind content es hst hr' hf' hcs hmem hd =>
    obtain ⟨ds, hds⟩ := hc
    have hcalls : t.calls = s.calls ++ (cs ++ es ++ ds) := by
      rw [← hds, hcs, calls_noted, List.append_assoc, List.append_assoc, List.append_assoc]
    exact .leftBehind hst (hr.trans hr') (hf.trans hf') hcalls (by simp [hmem]) hd
  | rejected hst hr' hf' => exact .rejected hst (hr ▸ hr') (hf.trans hf')

theorem status_ne_available {c : Classification} {t : Transition}
    (ht : nextTransition p.status c = t) (hne : t ≠ .unchanged) : p.status ≠ .available := by
  intro ha
  rw [ha] at ht
  exact hne ht.symm

theorem Publishing.moving {answer : Except ReconcileError Unit} (h : Publishing s p answer s')
    (hst : p.status ≠ .available) : s.Moving p s' := by
  cases h with
  | undownloaded => exact .stayed rfl rfl
  | unsaved => exact .stayed rfl rfl
  | takenBack => exact .takenBack hst rfl rfl
  | leftBehind _ _ hd => exact .leftBehind hst rfl rfl rfl (by simp) hd
  | published _ _ hu => exact .published hst hu rfl

theorem Applying.moving {answer : Except ReconcileError (Option Instant)}
    (h : Applying s policy set p after answer s') : s.Moving p s' := by
  cases h with
  | unpublished ht hp => exact hp.moving (status_ne_available ht nofun)
  | promoted ht hp =>
    have hmove := hp.moving (status_ne_available ht nofun)
    rw [← noted_nil s] at hmove
    exact hmove.widen rfl rfl ⟨_, rfl⟩
  | rejected ht _ _ hu => exact .rejected (status_ne_available ht nofun) hu rfl
  | _ => exact .stayed rfl rfl

theorem Processing.moving {answer : Except ReconcileError ReconcileOutcome}
    (h : Processing s policy set p after answer s') : s.Moving p s' := by
  cases h with
  | beyond ha => exact ha.moving.widen rfl rfl (List.prefix_refl _)
  | reported _ ha =>
    refine ha.moving.widen rfl rfl ?_
    rw [calls_reporting, calls_noted, calls_reporting, List.append_assoc, List.append_assoc]
    exact List.prefix_append _ _

theorem moving_process (policy : Policy) (set : ValidationSet) (p : Package) (s : Session) :
    s.Moving p (process policy set p s).2 :=
  (processing policy set p s).moving

/-- What handling a message can do to the registry and the public files. -/
inductive Moves (s s' : Session) : Prop
  | none (hr : s'.registry = s.registry) (hf : s'.publicFiles = s.publicFiles)
  | one {p : Package} (hp : p ∈ s.registry.packages.values) (h : s.Moving p s')

theorem moves_handle (policy : Policy) (m : ValidationMessage) (s : Session) :
    s.Moves (handle policy m s).2 := by
  have hhandle := handling policy m s
  generalize handle policy m s = x at hhandle ⊢
  obtain ⟨answer, s'⟩ := x
  dsimp only at hhandle ⊢
  cases hhandle with
  | unread => exact .none rfl rfl
  | unknownSet => exact .none rfl rfl
  | unknownPackage => exact .none rfl rfl
  | processed _ hp h =>
    rw [Registry.package?] at hp
    exact .one (List.mem_of_find?_eq_some hp) (h.moving.widen rfl rfl (List.prefix_refl _))

/-! ### What a step can do to the registry -/

theorem Moving.registry (hm : s.Moving p s') :
    s'.registry = s.registry ∨
      ∃ status, s.registry.updateStatus p status true = .ok s'.registry := by
  cases hm with
  | published _ hr => exact .inr ⟨_, hr⟩
  | rejected _ hr => exact .inr ⟨_, hr⟩
  | stayed hr => exact .inl hr
  | takenBack _ hr => exact .inl hr
  | leftBehind _ hr => exact .inl hr

/-- What a piece of work can make of a registry. -/
inductive Evolving (r : Registry) : Registry → Prop
  | stayed : Evolving r r
  | updated {p : Package} {status : PackageStatus} {r' : Registry}
      (h : r.updateStatus p status true = .ok r') : Evolving r r'
  | settled (maximum : UInt32) (m : CertificateMessage) (result : VerificationResult) :
      Evolving r (r.settle maximum m result)

theorem Moving.evolving (hm : s.Moving p s') : Evolving s.registry s'.registry := by
  rcases hm.registry with hr | ⟨status, hr⟩
  · rw [hr]
    exact .stayed
  · exact .updated hr

theorem evolving (s : Session) (w : Work) : Evolving s.registry (s.step w).registry := by
  cases w with
  | handle policy m =>
    cases moves_handle policy m s with
    | none hr =>
      rw [step, hr]
      exact .stayed
    | one _ hm => exact hm.evolving
  | process policy set p => exact (moving_process policy set p s).evolving
  | save maximum m result =>
    rcases (registry_save maximum m result s).1 with hr | hr
    · rw [step, hr]
      exact .stayed
    · rw [step, hr]
      exact .settled maximum m result
  | setClock => exact .stayed
  | setFaults => exact .stayed
  | submit => exact .stayed

theorem filed_step (h : s.registry.Filed) (w : Work) : (s.step w).registry.Filed := by
  have hev := evolving s w
  generalize (s.step w).registry = r at hev ⊢
  cases hev with
  | stayed => exact h
  | updated hr => exact h.updateStatus hr
  | settled maximum m result => exact h.settle m

end Session

end Admission
