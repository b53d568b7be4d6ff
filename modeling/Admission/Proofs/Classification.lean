import Admission.Proofs.Session.Record

/-!
Only what is on file about a set has a say in what becomes of its package: the statuses of its
validations, and how the policy treats their validators. What a set amounts to is told by these
(`classify_resolve_eq_hardFailed_iff` and the two after it). The order of the validations and what
the policy says of other validators make no difference, but to the order of the warnings that a
validator has no policy (`outcome_determined`).
-/

namespace Admission

variable {policy policy' : Policy} {set : ValidationSet} {vs : List Validation}
  {l l' : List ResolvedValidation} {default : Duration}

/-! ### What a set amounts to -/

/-- Some validation has failed that the policy does not allow to. -/
def HasHardFailure (policy : Policy) (set : ValidationSet) : Prop :=
  ∃ v ∈ set.validations, v.status = .failed ∧
    ∀ w, policy.validators.find? v.validator = some w → w.failureBehavior ≠ .allowedToFail

/-- There are validations, and all have succeeded. -/
def HasSucceeded (set : ValidationSet) : Prop :=
  set.validations ≠ [] ∧ ∀ v ∈ set.validations, v.status = .succeeded

theorem failureBehavior_policyFor_eq_mustSucceed_iff {validator : String} :
    (policy.policyFor validator).failureBehavior = .mustSucceed ↔
      ∀ w, policy.validators.find? validator = some w → w.failureBehavior ≠ .allowedToFail := by
  rw [Policy.policyFor]
  cases policy.validators.find? validator with
  | none => simp [ValidatorPolicy.mustSucceed]
  | some w => cases hw : w.failureBehavior <;> simp [hw]

theorem any_isHardFailure_resolve_iff :
    (policy.resolve set).any (·.isHardFailure) = true ↔ HasHardFailure policy set := by
  simp [HasHardFailure, Policy.resolve, ResolvedValidation.isHardFailure,
    failureBehavior_policyFor_eq_mustSucceed_iff]

theorem all_succeeded_resolve_iff :
    (!(policy.resolve set).isEmpty &&
        (policy.resolve set).all (·.validation.status == .succeeded)) = true ↔
      HasSucceeded set := by
  simp [HasSucceeded, Policy.resolve]

/-- Where all have succeeded, none has failed. -/
theorem HasSucceeded.not_hasHardFailure (h : HasSucceeded set) : ¬HasHardFailure policy set := by
  rintro ⟨v, hv, hfailed, -⟩
  rw [h.2 v hv] at hfailed
  cases hfailed

theorem classify_resolve_eq_hardFailed_iff :
    classify (policy.resolve set) = .hardFailed ↔ HasHardFailure policy set := by
  constructor
  · intro h
    by_contra hnone
    rw [classify, if_neg (mt any_isHardFailure_resolve_iff.1 hnone)] at h
    split at h <;> cases h
  · intro h
    rw [classify, if_pos (any_isHardFailure_resolve_iff.2 h)]

theorem classify_resolve_eq_allSucceeded_iff :
    classify (policy.resolve set) = .allSucceeded ↔ HasSucceeded set := by
  constructor
  · intro h
    by_contra hnot
    rw [classify, if_neg (mt all_succeeded_resolve_iff.1 hnot)] at h
    split at h <;> cases h
  · intro h
    rw [classify, if_neg (mt any_isHardFailure_resolve_iff.1 h.not_hasHardFailure),
      if_pos (all_succeeded_resolve_iff.2 h)]

theorem classify_resolve_eq_pending_iff :
    classify (policy.resolve set) = .pending ↔ ¬HasHardFailure policy set ∧ ¬HasSucceeded set := by
  have hsucceeded : HasSucceeded set ↔ classify (policy.resolve set) = .allSucceeded :=
    classify_resolve_eq_allSucceeded_iff.symm
  rw [← classify_resolve_eq_hardFailed_iff, hsucceeded]
  cases classify (policy.resolve set) <;> simp

/-! ### The order of validations -/

theorem classify_of_perm (h : l.Perm l') : classify l = classify l' := by
  rw [classify, classify, h.any_eq, h.all_eq, h.isEmpty_eq]

theorem rejectedOnlyBecauseSigned_of_perm (h : l.Perm l') :
    rejectedOnlyBecauseSigned l = rejectedOnlyBecauseSigned l' :=
  (h.filter _).all_eq

theorem Duration.min_spec (a b : Duration) :
    (a.min b = a ∨ a.min b = b) ∧ (a.min b).nanos ≤ a.nanos ∧ (a.min b).nanos ≤ b.nanos := by
  rw [Duration.min]
  split
  · rename_i h
    exact ⟨.inl rfl, Int.le_refl _, h⟩
  · rename_i h
    exact ⟨.inr rfl, Int.le_of_lt (Int.not_le.1 h), Int.le_refl _⟩

/-- The span is among them, and none is shorter. -/
def Shortest (ds : List Duration) (d : Duration) : Prop :=
  d ∈ ds ∧ ∀ e ∈ ds, d.nanos ≤ e.nanos

theorem Shortest.eq {ds : List Duration} {d e : Duration} (hd : Shortest ds d)
    (he : Shortest ds e) : d = e := by
  obtain ⟨a⟩ := d
  obtain ⟨b⟩ := e
  exact congrArg Duration.mk (Int.le_antisymm (hd.2 _ he.1) (he.2 _ hd.1))

theorem shortest_foldl_min (d : Duration) (ds : List Duration) :
    Shortest (d :: ds) (ds.foldl Duration.min d) := by
  induction ds generalizing d with
  | nil => exact ⟨List.mem_singleton_self d, by simp⟩
  | cons e ds ih =>
    obtain ⟨hmem, hle⟩ := ih (d.min e)
    rw [List.foldl_cons]
    generalize ds.foldl Duration.min (d.min e) = least at hmem hle ⊢
    obtain ⟨hmin, hd, he⟩ := Duration.min_spec d e
    have hfirst := hle _ List.mem_cons_self
    constructor
    · rcases List.mem_cons.1 hmem with rfl | hmem
      · rcases hmin with h | h <;> simp [h]
      · exact List.mem_cons_of_mem _ (List.mem_cons_of_mem _ hmem)
    · intro x hx
      rcases List.mem_cons.1 hx with rfl | hx
      · exact Int.le_trans hfirst hd
      · rcases List.mem_cons.1 hx with rfl | hx
        · exact Int.le_trans hfirst he
        · exact hle x (List.mem_cons_of_mem _ hx)

theorem recheckPeriod_of_perm (h : l.Perm l') :
    recheckPeriod l default = recheckPeriod l' default := by
  have hperiods := (h.filter (·.isPending)).map (·.policy.recheckPeriod)
  rw [recheckPeriod, recheckPeriod]
  generalize (l.filter (·.isPending)).map (·.policy.recheckPeriod) = ds at hperiods ⊢
  generalize (l'.filter (·.isPending)).map (·.policy.recheckPeriod) = ds' at hperiods ⊢
  match ds, ds' with
  | [], [] => rfl
  | [], e :: es => exact absurd hperiods.symm.eq_nil (List.cons_ne_nil e es)
  | d :: ds, [] => exact absurd hperiods.eq_nil (List.cons_ne_nil d ds)
  | d :: ds, e :: es =>
    obtain ⟨hmem, hle⟩ := shortest_foldl_min e es
    exact (shortest_foldl_min d ds).eq
      ⟨hperiods.mem_iff.2 hmem, fun x hx => hle x (hperiods.mem_iff.1 hx)⟩

/-! ### What a reconciliation looks at -/

/-- The set with other validations on record. -/
def ValidationSet.withValidations (set : ValidationSet) (vs : List Validation) : ValidationSet :=
  { set with validations := vs }

/-- The policies have the same default period, and say the same of the validators of a set. -/
structure Policy.AgreesOn (policy policy' : Policy) (set : ValidationSet) : Prop where
  defaultRecheckPeriod : policy'.defaultRecheckPeriod = policy.defaultRecheckPeriod
  find? : ∀ v ∈ set.validations,
    policy'.validators.find? v.validator = policy.validators.find? v.validator

section TwoRuns

variable (h : policy.AgreesOn policy' set) (hvs : vs.Perm set.validations)

include h hvs

theorem perm_resolve : (policy'.resolve (set.withValidations vs)).Perm (policy.resolve set) := by
  have hsame : (set.validations.map fun v => ⟨v, policy'.policyFor v.validator⟩) =
      policy.resolve set := by
    refine List.map_congr_left fun v hv => ?_
    rw [Policy.policyFor, Policy.policyFor, h.find? v hv, h.defaultRecheckPeriod]
  rw [← hsame]
  exact hvs.map _

theorem perm_missingPolicyLogs :
    (policy'.missingPolicyLogs (set.withValidations vs)).Perm (policy.missingPolicyLogs set) := by
  have hsame : (set.validations.filter fun v => !policy'.validators.contains v.validator) =
      set.validations.filter fun v => !policy.validators.contains v.validator := by
    refine List.filter_congr fun v hv => ?_
    rw [SortedMap.contains, SortedMap.contains, h.find? v hv]
  rw [Policy.missingPolicyLogs, Policy.missingPolicyLogs, ← hsame]
  exact (hvs.filter _).map _

/-- What is done about the package is the same, whatever the services are. -/
theorem applyTransition_eq {m : Type → Type} [Monad m] (sv : ReconcileServices m) (p : Package) :
    applyTransition sv policy' (set.withValidations vs)
        (policy'.resolve (set.withValidations vs)) p =
      applyTransition sv policy set (policy.resolve set) p := by
  have hperm := perm_resolve h hvs
  rw [applyTransition, applyTransition, classify_of_perm hperm]
  cases nextTransition p.status (classify (policy.resolve set)) with
  | promote => rfl
  | reject =>
    dsimp only
    rw [reject, reject, rejectedOnlyBecauseSigned_of_perm hperm]
  | awaitRecheck =>
    dsimp only
    rw [awaitRecheck, awaitRecheck, recheckPeriod_of_perm hperm, h.defaultRecheckPeriod]
    rfl
  | unchanged => rfl

theorem settleOutcome_eq {m : Type → Type} [Monad m] (sv : ReconcileServices m) (p : Package) :
    settleOutcome sv policy' (set.withValidations vs) p = settleOutcome sv policy set p := by
  have hperm := perm_resolve h hvs
  rw [settleOutcome, settleOutcome, applyTransition_eq h hvs, classify_of_perm hperm,
    hperm.length_eq]
  rfl

end TwoRuns

namespace Session

theorem oblivious_settleOutcome (policy : Policy) (set : ValidationSet) (p : Package) :
    Oblivious (settleOutcome reconcileServices policy set p) :=
  fun s past => (sparesOutcomes_after past).services.settleOutcome policy set p s

/-- A reconciliation warns of validators without a policy and does the rest whatever is on record. -/
theorem run_process (policy : Policy) (set : ValidationSet) (p : Package) (s : Session) :
    process policy set p s =
      ((settleOutcome reconcileServices policy set p s.unrecorded).1,
        (settleOutcome reconcileServices policy set p s.unrecorded).2.after
          (s.noted [] (policy.missingPolicyLogs set))) := by
  have hpast := after_unrecorded (s.noted [] (policy.missingPolicyLogs set))
  rw [process, processOutcome, run_bind, run_logAll, ← oblivious_settleOutcome]
  exact congrArg (settleOutcome reconcileServices policy set p) hpast.symm

/-- A set has failed exactly if a validation has that the policy does not allow to, has succeeded
    exactly if it has validations and all have succeeded, and is pending otherwise. Under a policy
    that says the same of its validators, and with its validations in another order, reconciling it
    comes to the same, and leaves the same registry, files, calls and metrics, and the same log
    entries but for their order. -/
theorem outcome_determined (policy : Policy) (set : ValidationSet) :
    (classify (policy.resolve set) = .hardFailed ↔ HasHardFailure policy set) ∧
      (classify (policy.resolve set) = .allSucceeded ↔ HasSucceeded set) ∧
      (classify (policy.resolve set) = .pending ↔
        ¬HasHardFailure policy set ∧ ¬HasSucceeded set) ∧
      ∀ (policy' : Policy) (vs : List Validation), policy.AgreesOn policy' set →
        vs.Perm set.validations → ∀ (p : Package) (s : Session),
          let x := process policy set p s
          let x' := process policy' (set.withValidations vs) p s
          x'.1 = x.1 ∧ x'.2 = { x.2 with logs := x'.2.logs } ∧ x'.2.logs.Perm x.2.logs := by
  refine ⟨classify_resolve_eq_hardFailed_iff, classify_resolve_eq_allSucceeded_iff,
    classify_resolve_eq_pending_iff, fun policy' vs h hvs p s => ?_⟩
  intro x x'
  have hx : x = _ := run_process policy set p s
  have hx' : x' = _ := run_process policy' (set.withValidations vs) p s
  rw [settleOutcome_eq h hvs] at hx'
  rw [hx, hx']
  refine ⟨rfl, rfl, ?_⟩
  exact ((perm_missingPolicyLogs h hvs).append_left s.logs).append_right _

/-- A policy that lets one validator fail. -/
def lenient : Policy :=
  (Policy.new (.ofSeconds 60) 5).withValidator "lint" (.allowedToFail (.ofSeconds 10))

/-- The same with one more validator, and another maximum. -/
def padded : Policy :=
  { lenient with maxValidationFailures := 1 }.withValidator "spare" (.mustSucceed (.ofSeconds 1))

/-- Two validations have failed, one of a validator that may and one of a validator that no policy
    is given for. -/
def reviewedSet : ValidationSet :=
  ⟨.ofDigit 1, "Reviewed", "1.0.0", .epoch,
    [⟨.ofDigit 2, "lint", .failed, []⟩, ⟨.ofDigit 3, "manual", .failed, [.packageIsSigned]⟩,
      ⟨.ofDigit 4, "scan", .succeeded, []⟩]⟩

/-- The package of the set. -/
def reviewed : Package := ⟨1, "Reviewed", "1.0", "1.0.0", .validating⟩

/-- A session with the set and its package on file. -/
def withReviewed : Session :=
  .start (.ofSnapshot { Snapshot.empty with
    packages := [reviewed]
    validationSets := [reviewedSet] }) .empty .epoch

/-- The package is rejected in either way. -/
theorem outcome_determined_padded :
    let x := process lenient reviewedSet reviewed withReviewed
    let x' := process padded (reviewedSet.withValidations reviewedSet.validations.reverse) reviewed
      withReviewed
    classify (lenient.resolve reviewedSet) = .hardFailed ∧ padded ≠ lenient ∧
      x'.1 = x.1 ∧ x'.2.registry = x.2.registry ∧ x'.2.calls = x.2.calls ∧
      x.1.2 = .ok ⟨.validating, .failedValidation, .hardFailed, none⟩ ∧
      x'.2.registry.packages.values = [{ reviewed with status := .failedValidation }] := by
  intro x x'
  obtain ⟨hfailed, -, -, hsame⟩ := outcome_determined lenient reviewedSet
  have hagree : lenient.AgreesOn padded reviewedSet := ⟨rfl, by decide⟩
  obtain ⟨hanswer, hsession, -⟩ :=
    hsame padded _ hagree (List.reverse_perm _) reviewed withReviewed
  have hregistry : x'.2.registry = x.2.registry := congrArg (·.registry) hsession
  refine ⟨hfailed.2 ⟨⟨.ofDigit 3, "manual", .failed, [.packageIsSigned]⟩, ?_, rfl, ?_⟩, ?_, hanswer,
    hregistry, congrArg (·.calls) hsession, ?_, ?_⟩
  · decide
  · decide
  · decide
  · decide +kernel
  · rw [hregistry]
    decide +kernel

end Session

end Admission
