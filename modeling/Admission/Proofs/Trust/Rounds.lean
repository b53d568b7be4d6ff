import Admission.Proofs.Session.Rounds

/-!
Rounds as certificates and signatures see them. What verification results bear on changes only in a
round that saves one, and then as the plan of the registry says; in every other round it is left
alone, and nothing is reported of it (`judging`).
-/

namespace Admission

/-- Whether a call reports a certificate or a signature. -/
def Call.reportsTrust : Call → Bool
  | .report (.certificateAlert _) | .report (.signatureInvalidated _) => true
  | _ => false

theorem Call.reportsTrust_of_readsTrust {c : Call} (h : c.readsTrust = true) :
    c.reportsTrust = false := by
  cases c <;> simp_all [readsTrust, reportsTrust]

theorem Call.reportsTrust_of_findsOutcome {c : Call} (h : c.findsOutcome = true) :
    c.reportsTrust = false := by
  cases c <;> simp_all [findsOutcome, reportsTrust]

namespace Session

/-- Whether a result would be saved. -/
def saves (s : Session) (maximum : UInt32) (m : CertificateMessage) (result : VerificationResult) :
    Bool :=
  match (save maximum m result s).1 with
  | .ok saved => saved
  | .error _ => false

theorem saves_iff {s : Session} {maximum : UInt32} {m : CertificateMessage}
    {result : VerificationResult} :
    s.saves maximum m result = true ↔ (save maximum m result s).1 = .ok true := by
  rw [saves]
  split <;> simp_all

/-- Whether a round saves a verification result. -/
def savesIn (s : Session) : Round → Bool
  | .work (.save maximum m result) => s.saves maximum m result
  | _ => false

variable {s s' : Session} {policy : Policy} {set : ValidationSet} {p after : Package}

/-! ### Reconciliations -/

/-- No call made since reports a certificate or a signature. -/
def Discreet (s s' : Session) : Prop := s.CallsOnly (·.reportsTrust = false) s'

theorem Publishing.discreet {answer : Except ReconcileError Unit} (h : Publishing s p answer s') :
    s.Discreet s' := by
  cases h <;> exact ⟨_, rfl, by simp [Call.reportsTrust]⟩

theorem Applying.discreet {answer : Except ReconcileError (Option Instant)}
    (h : Applying s policy set p after answer s') : s.Discreet s' := by
  cases h with
  | unchanged => exact CallsOnly.of_calls_eq rfl
  | unpublished _ hp => exact hp.discreet
  | promoted _ hp =>
    exact CallsOnly.trans hp.discreet (callsOnly_noted _ (by simp [Call.reportsTrust]))
  | beyond => exact CallsOnly.of_calls_eq rfl
  | _ => exact ⟨_, rfl, by simp [Call.reportsTrust]⟩

theorem Processing.discreet {answer : Except ReconcileError ReconcileOutcome}
    (h : Processing s policy set p after answer s') : s.Discreet s' := by
  cases h with
  | beyond ha => exact (callsOnly_logged _).trans ha.discreet
  | reported _ ha hts =>
    have happly := (callsOnly_logged _).trans ha.discreet
    refine ((happly.trans (callsOnly_reporting ?_)).trans (callsOnly_logged _)).trans
      (callsOnly_reporting ?_)
    · simp [Call.reportsTrust]
    · rw [hts]
      split <;> simp [Call.reportsTrust]

theorem Handling.discreet {m : ValidationMessage} {answer : Except ReconcileError ReconcileOutcome}
    (h : Handling s policy m answer s') : s.Discreet s' := by
  cases h with
  | unread _ _ hcs =>
    exact callsOnly_noted _ fun c hc => Call.reportsTrust_of_findsOutcome (hcs c hc)
  | unknownSet => exact callsOnly_noted _ (by simp [Call.reportsTrust])
  | unknownPackage => exact callsOnly_noted _ (by simp [Call.reportsTrust])
  | processed _ _ hproc =>
    exact (callsOnly_noted _ (by simp [Call.reportsTrust])).trans hproc.discreet

theorem Moving.undisturbed (h : s.Moving p s') : s.registry.Undisturbed s'.registry := by
  rcases h.registry with hr | ⟨status, hr⟩
  · exact hr ▸ .refl _
  · exact .of_updateStatus hr

theorem Moves.undisturbed (h : s.Moves s') : s.registry.Undisturbed s'.registry := by
  cases h with
  | none hr => exact hr ▸ .refl _
  | one _ hm => exact hm.undisturbed

/-! ### Rounds -/

/-- What a round can do to what verification results bear on, and what it then reports of it. -/
inductive Judging (s : Session) : Round → Session → Prop
  | saved {maximum : UInt32} {m : CertificateMessage} {result : VerificationResult}
      {plan : TrustPlan} {cs : List Call} {s' : Session}
      (hsaved : s.saves maximum m result = true)
      (hp : s.registry.plan? maximum m result = some plan)
      (hr : s'.registry = s.registry.put plan.changes)
      (hcs : s'.calls = s.calls ++ (cs ++ plan.reports.map .report))
      (hq : ∀ c ∈ cs, c.reportsTrust = false) :
      Judging s (.work (.save maximum m result)) s'
  | undisturbed {t : Round} {s' : Session} (hunsaved : s.savesIn t = false)
      (hr : s.registry.Undisturbed s'.registry) (hd : s.Discreet s') : Judging s t s'

/-- A result that is not saved leaves nothing but calls that report nothing, and log entries. -/
theorem Saving.noted_of_ne {maximum : UInt32} {m : CertificateMessage}
    {result : VerificationResult} {answer : Except TrustError Bool}
    (h : Saving s maximum m result answer s') (hne : answer ≠ .ok true) :
    ∃ cs ls, s' = s.noted cs ls ∧ ∀ c ∈ cs, c.reportsTrust = false := by
  have hreads {cs : List Call} (hcs : ∀ c ∈ cs, c.readsTrust = true) :
      ∀ c ∈ cs, c.reportsTrust = false := fun c hc => Call.reportsTrust_of_readsTrust (hcs c hc)
  cases h with
  | unread _ _ hcs => exact ⟨_, _, rfl, hreads hcs⟩
  | unresolved hcs => exact ⟨_, _, rfl, hreads hcs⟩
  | refused hcs =>
    exact ⟨_, _, rfl, List.forall_mem_append.2 ⟨hreads hcs, by simp [Call.reportsTrust]⟩⟩
  | saved => exact absurd rfl hne

theorem judging_save (maximum : UInt32) (m : CertificateMessage) (result : VerificationResult)
    (s : Session) :
    s.Judging (.work (.save maximum m result)) (save maximum m result s).2 := by
  have hsave := saving maximum m result s
  have hiff : s.saves maximum m result = true ↔ _ := saves_iff
  generalize save maximum m result s = x at hsave hiff ⊢
  obtain ⟨answer, s'⟩ := x
  dsimp only at hsave hiff ⊢
  by_cases hanswer : answer = .ok true
  · subst hanswer
    cases hsave with
    | @saved cs ls plan _ hcs hp _ hr =>
      obtain rfl := Registry.put_of_commit hr
      refine @Judging.saved _ _ _ _ _ (cs ++ [.commit plan.changes]) _ (hiff.2 rfl) hp rfl ?_ ?_
      · exact List.append_assoc _ _ _
      · refine List.forall_mem_append.2 ⟨?_, by simp [Call.reportsTrust]⟩
        exact fun c hc => Call.reportsTrust_of_readsTrust (hcs c hc)
  · obtain ⟨cs, ls, rfl, hcs⟩ := hsave.noted_of_ne hanswer
    have hunsaved : s.saves maximum m result = false :=
      Bool.eq_false_iff.2 fun hs => hanswer (hiff.1 hs)
    exact .undisturbed hunsaved (.refl _) (callsOnly_noted ls hcs)

/-- A round saves a verification result as planned, or it leaves everything alone that results bear
    on. -/
theorem judging (s : Session) (t : Round) : s.Judging t (s.round t) := by
  cases t with
  | work w =>
    cases w with
    | handle policy m =>
      exact .undisturbed rfl (moves_handle policy m s).undisturbed (handling policy m s).discreet
    | process policy set p =>
      exact .undisturbed rfl (moving_process policy set p s).undisturbed
        (processing policy set p s).discreet
    | save maximum m result => exact judging_save maximum m result s
    | setClock => exact .undisturbed rfl (.refl _) (CallsOnly.of_calls_eq rfl)
    | setFaults => exact .undisturbed rfl (.refl _) (CallsOnly.of_calls_eq rfl)
    | submit => exact .undisturbed rfl (.refl _) (CallsOnly.of_calls_eq rfl)
  | replaceSets => exact .undisturbed rfl ⟨rfl, rfl, rfl, rfl, rfl⟩ (CallsOnly.of_calls_eq rfl)

end Session

end Admission
