import Admission.Command.Services
import Admission.Proofs.Machine
import Admission.Proofs.Trust.Planning

/-!
What the services of a command do on a machine, and what saving a verification result with them
comes to: all depends on the registry and the files alone, however the rest of the machine stands
(`Ends`). An action that does not turn to the files has one answer for each registry (`Answers`),
and reports and log entries change nothing (`Idle`).
-/

namespace Admission.Command

open Machine

variable {α β : Type} {x : WithRegistry (StateM Machine) α}
  {f : α → WithRegistry (StateM Machine) β} {r r' r'' : Registry} {t : FileTree} {a : α} {b : β}

/-- Run on that registry and those files, the action ends in an answer, a registry and files that
    the condition holds of, whatever else there is on the machine. -/
def Ends (x : WithRegistry (StateM Machine) α) (r : Registry) (t : FileTree)
    (q : α → Registry → FileTree → Prop) : Prop :=
  ∀ s : Machine, s.files = t → q (x r s).1.1 (x r s).1.2 (x r s).2.files

/-- On the one registry the action answers that, leaves the other registry, and keeps the files. -/
def Answers (x : WithRegistry (StateM Machine) α) (r : Registry) (a : α) (r' : Registry) : Prop :=
  ∀ s : Machine, (x r s).1 = (a, r') ∧ (x r s).2.files = s.files

/-- Whatever it answers, the action leaves the registry and the files as they are. -/
def Idle (x : WithRegistry (StateM Machine) α) : Prop :=
  ∀ r s, (x r s).1.2 = r ∧ (x r s).2.files = s.files

section Sequences

variable {p : α → Registry → FileTree → Prop} {q : β → Registry → FileTree → Prop}

theorem Ends.bind (hx : Ends x r t p) (hf : ∀ a r' t', p a r' t' → Ends (f a) r' t' q) :
    Ends (x >>= f) r t q :=
  fun s hs => hf _ _ _ (hx s hs) _ rfl

theorem ends_pure (h : p a r t) : Ends (pure a) r t p := by
  rintro s rfl
  exact h

theorem Ends.mono {p' : α → Registry → FileTree → Prop} (hx : Ends x r t p)
    (h : ∀ a r' t', p a r' t' → p' a r' t') : Ends x r t p' :=
  fun s hs => h _ _ _ (hx s hs)

/-- Nothing is asked for. -/
theorem ends_anyhow (x : WithRegistry (StateM Machine) α) (r : Registry) (t : FileTree) :
    Ends x r t fun _ _ _ => True :=
  fun _ _ => trivial

theorem Answers.ends_bind (hx : Answers x r a r') (hf : Ends (f a) r' t q) :
    Ends (x >>= f) r t q := by
  have hends : Ends x r t fun b r₁ t₁ => (a, r') = (b, r₁) ∧ t = t₁ := by
    rintro s rfl
    exact ⟨(hx s).1.symm, (hx s).2.symm⟩
  refine hends.bind ?_
  rintro _ _ _ ⟨⟨⟩, rfl⟩
  exact hf

theorem Answers.bind (hx : Answers x r a r') (hf : Answers (f a) r' b r'') :
    Answers (x >>= f) r b r'' := by
  intro s
  obtain ⟨hanswer, hfiles⟩ := hx s
  have hrest := hf (x r s).2
  rw [hfiles, show a = (x r s).1.1 by rw [hanswer], show r' = (x r s).1.2 by rw [hanswer]] at hrest
  exact hrest

theorem answers_pure (a : α) (r : Registry) : Answers (pure a) r a r := fun _ => ⟨rfl, rfl⟩

theorem Idle.ends_bind (hx : Idle x) (hf : ∀ a, Ends (f a) r t q) : Ends (x >>= f) r t q := by
  have hends : Ends x r t fun _ r₁ t₁ => r = r₁ ∧ t = t₁ := by
    rintro s rfl
    exact ⟨(hx r s).1.symm, (hx r s).2.symm⟩
  refine hends.bind ?_
  rintro a _ _ ⟨rfl, rfl⟩
  exact hf a

theorem Idle.ends (hx : Idle x) (h : ∀ a, p a r t) : Ends x r t p := by
  rintro s rfl
  obtain ⟨hr, hs⟩ := hx r s
  rw [hr, hs]
  exact h _

theorem Idle.answers {x : WithRegistry (StateM Machine) Unit} (hx : Idle x) (r : Registry) :
    Answers x r () r :=
  fun s => ⟨Prod.ext rfl (hx r s).1, (hx r s).2⟩

theorem idle_pure (a : α) : Idle (pure a : WithRegistry (StateM Machine) α) :=
  fun _ _ => ⟨rfl, rfl⟩

theorem Idle.bind (hx : Idle x) (hf : ∀ a, Idle (f a)) : Idle (x >>= f) := by
  intro r s
  obtain ⟨hr, hs⟩ := hf (x r s).1.1 (x r s).1.2 (x r s).2
  exact ⟨hr.trans (hx r s).1, hs.trans (hx r s).2⟩

end Sequences

/-! ### Services -/

theorem answers_ask (answer : Registry → α) (r : Registry) :
    Answers (ask answer) r (.ok (answer r)) r :=
  fun _ => ⟨rfl, rfl⟩

theorem answers_change_of_ok {act : Registry → Except RegistryError Registry}
    (h : act r = .ok r') : Answers (change act) r (.ok ()) r' := by
  intro s
  simp only [change, h]
  exact ⟨rfl, rfl⟩

theorem idle_onHost {act : StateM Machine α} (h : ∀ s, (act s).2.files = s.files) :
    Idle (onHost act) :=
  fun _ s => ⟨rfl, h s⟩

theorem files_logAll (es : List LogEntry) (s : Machine) :
    (host.logAll es s).2.files = s.files := by
  induction es generalizing s with
  | nil => rfl
  | cons e es ih => exact ih _

theorem idle_log (e : LogEntry) : Idle (onHost (host.log e)) := idle_onHost fun _ => rfl

theorem idle_report (telemetry : Telemetry) : Idle (onHost (host.report telemetry)) :=
  idle_onHost fun _ => files_logAll _ _

theorem idle_logged {ε : Type} (e : LogEntry) : Idle (logged host e (ε := ε)) :=
  fun _ _ => ⟨rfl, rfl⟩

/-! ### Saving a verification result -/

variable {maximum : UInt32} {m : CertificateMessage} {result : VerificationResult}

theorem idle_logIndeterminate (maximum : UInt32) (result : VerificationResult) (j : Judgement) :
    Idle (logIndeterminate (trustServices host) maximum result j) := by
  rw [logIndeterminate]
  split
  · exact idle_log _
  · exact idle_pure ()

theorem answers_completePlan (r : Registry) (cert : Certificate) (att : VerificationAttempt) :
    Answers (completePlan (trustServices host) (judge maximum cert att result)) r
      (.ok (r.planFor maximum cert att result)) r := by
  rw [completePlan, judge_cascade, Registry.planFor, Registry.cascadeFor]
  cases result.rule? with
  | none => exact answers_pure _ r
  | some rule =>
    rw [judge_certificate_key]
    exact fun _ => ⟨rfl, rfl⟩

/-- Reading for a result answers the plan of the registry. -/
theorem answers_planResult (r : Registry) :
    Answers (planResult (trustServices host) maximum m result) r
      (.ok (r.plan? maximum m result)) r := by
  have hfind : Answers (findVerification (trustServices host) m) r
      (.ok (r.pendingAttempt? m.certificateKey m.validationId)) r := fun _ => ⟨rfl, rfl⟩
  refine hfind.bind ?_
  rw [Registry.plan?]
  cases r.pendingAttempt? m.certificateKey m.validationId with
  | none => exact ((idle_log _).answers r).bind (answers_pure _ r)
  | some att =>
    refine (answers_ask _ r).bind ?_
    rw [Option.bind_some]
    cases r.certificates.find? att.certificateKey with
    | none => exact ((idle_log _).answers r).bind (answers_pure _ r)
    | some cert =>
      refine ((idle_logIndeterminate _ _ _).answers r).bind ?_
      exact (answers_completePlan r cert att).bind (answers_pure _ r)

theorem idle_reportInvalidated (l : List Signature) :
    Idle (reportInvalidated (trustServices host) l) := by
  induction l with
  | nil => exact idle_pure ()
  | cons a l ih => exact (idle_report _).bind fun _ => ih

theorem answers_commitPlan {plan : TrustPlan} (h : r.commit plan.changes = .ok r') :
    Answers (commitPlan (trustServices host) result plan) r (.ok ()) r' := by
  have hreport := ((idle_reportInvalidated plan.changes.invalidatedSignatures).answers r').bind
    (f := fun _ => pure (.ok () : Except TrustError Unit)) (answers_pure _ r')
  refine (answers_change_of_ok h).bind (((idle_log _).answers r').bind ?_)
  split
  · exact ((idle_report _).answers r').bind hreport
  · exact hreport

/-- Saving a result settles it, and answers whether there was anything to save it to. -/
theorem answers_saveResult (hr : r.Filed) :
    Answers (saveResult (trustServices host) maximum m result) r
      (.ok (r.plan? maximum m result).isSome) (r.settle maximum m result) := by
  refine (answers_planResult r).bind ?_
  rw [Registry.settle]
  cases hp : r.plan? maximum m result with
  | none => exact answers_pure _ r
  | some plan =>
    exact (answers_commitPlan (Registry.commit_of_plan? hr hp)).bind (answers_pure _ _)

end Admission.Command
