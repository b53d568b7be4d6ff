import Mathlib.Data.List.Nodup
import Admission.Policy
import Admission.Proofs.Config.Search
import Admission.Proofs.Filing

/-!
Which configurations are accepted, and what becomes of them. A configuration is acceptable if its
periods are in range, its validators have names of their own, and what they require is started and
does not go round in a circle. The check finds no problem in exactly these (`problems_eq_nil_iff`),
and the policy made of one has an entry for each validator and no other (`perm_entries_ofConfig`).
-/

namespace Admission

open Relation (TransGen)

namespace Config

/-- A re-check period of a second at least and of a week at most. -/
def InRange (secs : UInt64) : Prop := 1 ≤ secs.toNat ∧ secs.toNat ≤ 604800

instance (secs : UInt64) : Decidable (InRange secs) :=
  inferInstanceAs (Decidable (1 ≤ secs.toNat ∧ _))

/-- A validator of the first name requires the second. -/
def Requires (c : Config) (a b : String) : Prop :=
  ∃ v ∈ c.validation.validators, v.name = a ∧ b ∈ v.requiredValidations

/-- What is asked of a configuration. -/
structure Acceptable (c : Config) : Prop where
  period : InRange c.validation.recheckPeriodSecs
  ownPeriods : ∀ v ∈ c.validation.validators, ∀ secs ∈ v.recheckPeriodSecs, InRange secs
  named : ∀ v ∈ c.validation.validators, ∃ a ∈ v.name.toList, Text.isBlank a = false
  distinct : (c.validation.validators.map (·.name)).Nodup
  started : ∀ v ∈ c.validation.validators, ∀ name ∈ v.requiredValidations,
    ∃ w ∈ c.validation.validators, w.name = name ∧ w.required = true
  acyclic : ∀ name, ¬TransGen c.Requires name name
  tolerance : 1 ≤ c.certificates.maximumValidationFailures.toNat

variable {c : Config} {vs : List ValidatorConfig} {seen : List String} {scope name : String}
  {secs : UInt64}

/-! ### What the check asks -/

theorem periodProblems_eq_nil_iff : periodProblems scope secs = [] ↔ InRange secs := by
  rw [periodProblems, InRange]
  have hzero : (secs == 0) = true ↔ secs.toNat = 0 := by
    rw [beq_iff_eq, ← UInt64.toNat_inj]
    rfl
  have hlong : secs > maxRecheckPeriodSecs ↔ 604800 < secs.toNat := UInt64.lt_iff_toNat_lt
  simp only [Bool.or_eq_true, decide_eq_true_eq, hzero, hlong]
  split
  · rename_i h
    simp only [List.cons_ne_nil, false_iff]
    omega
  · rename_i h
    simp only [true_iff]
    omega

theorem allBlank_eq_false_iff :
    Text.allBlank name = false ↔ ∃ a ∈ name.toList, Text.isBlank a = false := by
  simp [Text.allBlank]

theorem ownProblems_eq_nil_iff {v : ValidatorConfig} :
    v.recheckPeriodSecs.elim [] (periodProblems v.name) = [] ↔
      ∀ secs ∈ v.recheckPeriodSecs, InRange secs := by
  cases v.recheckPeriodSecs with
  | none => simp
  | some secs => simp [periodProblems_eq_nil_iff]

/-- Nothing is wrong with validators by themselves if each has a name, one that no other has, and a
    period in range if it has its own. -/
theorem validatorProblems_eq_nil_iff :
    validatorProblems seen vs = [] ↔
      (∀ v ∈ vs, Text.allBlank v.name = false ∧ v.name ∉ seen ∧
        ∀ secs ∈ v.recheckPeriodSecs, InRange secs) ∧ (vs.map (·.name)).Nodup := by
  induction vs generalizing seen with
  | nil => simp [validatorProblems]
  | cons v vs ih =>
    rw [validatorProblems]
    cases hblank : Text.allBlank v.name with
    | true => simp [hblank]
    | false =>
      have hdup : (if seen.contains v.name then [ConfigProblem.duplicateValidator v.name] else [])
          = [] ↔ v.name ∉ seen := by
        split <;> simp_all
      simp only [Bool.false_eq_true, if_false, List.append_eq_nil_iff, hdup, ownProblems_eq_nil_iff,
        ih, List.map_cons, List.nodup_cons, List.forall_mem_cons, hblank, true_and]
      constructor
      · rintro ⟨⟨hseen, hown⟩, hrest, hnodup⟩
        refine ⟨⟨⟨hseen, hown⟩, fun w hw => ?_⟩, ?_, hnodup⟩
        · obtain ⟨hname, hnew, hperiod⟩ := hrest w hw
          exact ⟨hname, fun h => hnew (List.mem_cons_of_mem _ h), hperiod⟩
        · intro hmem
          obtain ⟨w, hw, hwv⟩ := List.mem_map.1 hmem
          exact (hrest w hw).2.1 (hwv ▸ List.mem_cons_self)
      · rintro ⟨⟨⟨hseen, hown⟩, hrest⟩, hnew, hnodup⟩
        refine ⟨⟨hseen, hown⟩, fun w hw => ?_, hnodup⟩
        obtain ⟨hname, hold, hperiod⟩ := hrest w hw
        refine ⟨hname, fun h => ?_, hperiod⟩
        rcases List.mem_cons.1 h with hwv | h
        · exact hnew (List.mem_map.2 ⟨w, hw, hwv⟩)
        · exact hold h

/-! ### What the check asks of prerequisites -/

theorem prerequisiteProblems_eq_nil_iff {byName : Dependencies.ByName} {required : String} :
    prerequisiteProblems byName name required = [] ↔
      ∃ w, byName.find? required = some w ∧ w.required = true := by
  rw [prerequisiteProblems]
  cases byName.find? required with
  | none => simp
  | some w => cases hw : w.required <;> simp [hw]

theorem requirementProblems_eq_nil_iff {byName : Dependencies.ByName} :
    requirementProblems byName vs = [] ↔ ∀ v ∈ vs, ∀ name ∈ v.requiredValidations,
      ∃ w, byName.find? name = some w ∧ w.required = true := by
  simp only [requirementProblems, List.flatMap_eq_nil_iff, prerequisiteProblems_eq_nil_iff]

/-- The validators that have a name. -/
def named (vs : List ValidatorConfig) : List ValidatorConfig :=
  vs.filter fun v => !Text.allBlank v.name

/-- Where no name stands twice, each validator that has one is found by it. -/
theorem find?_byName_eq_some_iff_mem_named (hdistinct : ((named vs).map (·.name)).Nodup)
    {v : ValidatorConfig} : (byName vs).find? name = some v ↔ v ∈ named vs ∧ v.name = name :=
  SortedMap.find?_ofValues_eq_some_iff
    fun _ hv _ hw h => List.inj_on_of_nodup_map hdistinct hv hw h

/-- Where each validator has a name of its own, it is found by it. -/
theorem find?_byName_eq_some_iff (hnamed : ∀ v ∈ vs, Text.allBlank v.name = false)
    (hdistinct : (vs.map (·.name)).Nodup) {v : ValidatorConfig} :
    (byName vs).find? name = some v ↔ v ∈ vs ∧ v.name = name := by
  have hall : named vs = vs := List.filter_eq_self.2 fun v hv => by rw [hnamed v hv]; rfl
  rw [find?_byName_eq_some_iff_mem_named (hall.symm ▸ hdistinct), hall]

/-- Then what a name needs is what its validator requires. -/
theorem needs_byName (hnamed : ∀ v ∈ c.validation.validators, Text.allBlank v.name = false)
    (hdistinct : (c.validation.validators.map (·.name)).Nodup) :
    Dependencies.Needs (byName c.validation.validators) = c.Requires := by
  funext a b
  simp only [Dependencies.Needs, Requires, find?_byName_eq_some_iff hnamed hdistinct, and_assoc]

/-! ### Acceptance -/

/-- There is no problem with a configuration exactly if it has all that is asked of it. -/
theorem problems_eq_nil_iff : c.problems = [] ↔ c.Acceptable := by
  have hmaximum : (if c.certificates.maximumValidationFailures == 0 then
      [ConfigProblem.invalidMaximumValidationFailures] else []) = [] ↔
        1 ≤ c.certificates.maximumValidationFailures.toNat := by
    rw [Nat.one_le_iff_ne_zero, ne_eq, ← UInt32.toNat_zero, UInt32.toNat_inj]
    split <;> simp_all
  have hcycle : ((Dependencies.findCycle? (byName c.validation.validators)).elim []
      fun name => [ConfigProblem.dependencyCycle name]) = [] ↔
        ∀ name, ¬TransGen (Dependencies.Needs (byName c.validation.validators)) name name := by
    rw [← Dependencies.findCycle?_eq_none_iff]
    cases Dependencies.findCycle? (byName c.validation.validators) <;> simp
  simp only [problems, List.append_eq_nil_iff, periodProblems_eq_nil_iff,
    validatorProblems_eq_nil_iff, requirementProblems_eq_nil_iff, hcycle, hmaximum]
  constructor
  · rintro ⟨⟨⟨⟨hperiod, hvalidators, hdistinct⟩, hstarted⟩, hacyclic⟩, htolerance⟩
    have hnamed : ∀ v ∈ c.validation.validators, Text.allBlank v.name = false :=
      fun v hv => (hvalidators v hv).1
    rw [needs_byName hnamed hdistinct] at hacyclic
    refine ⟨hperiod, fun v hv => (hvalidators v hv).2.2, ?_, hdistinct, ?_, hacyclic, htolerance⟩
    · exact fun v hv => allBlank_eq_false_iff.1 (hnamed v hv)
    · intro v hv name hname
      obtain ⟨w, hw, hrequired⟩ := hstarted v hv name hname
      obtain ⟨hmem, hwname⟩ := (find?_byName_eq_some_iff hnamed hdistinct).1 hw
      exact ⟨w, hmem, hwname, hrequired⟩
  · intro h
    have hnamed : ∀ v ∈ c.validation.validators, Text.allBlank v.name = false :=
      fun v hv => allBlank_eq_false_iff.2 (h.named v hv)
    rw [needs_byName hnamed h.distinct]
    refine ⟨⟨⟨⟨h.period, fun v hv => ?_, h.distinct⟩, ?_⟩, h.acyclic⟩, h.tolerance⟩
    · exact ⟨hnamed v hv, List.not_mem_nil, h.ownPeriods v hv⟩
    · intro v hv name hname
      obtain ⟨w, hw, hwname, hrequired⟩ := h.started v hv name hname
      exact ⟨w, (find?_byName_eq_some_iff hnamed h.distinct).2 ⟨hw, hwname⟩, hrequired⟩

theorem validate_eq_ok_iff : c.validate = .ok () ↔ c.Acceptable := by
  rw [← problems_eq_nil_iff, validate]
  split <;> simp_all

end Config

/-! ### The policy of a configuration -/

/-- How a validator is to be treated under a configuration. -/
def Config.treatment (c : Config) (v : ValidatorConfig) : ValidatorPolicy where
  required := v.required
  failureBehavior := v.failureBehavior
  recheckPeriod :=
    .ofSeconds (v.recheckPeriodSecs.getD c.validation.recheckPeriodSecs).toNat

namespace Policy

variable {c : Config} {p : Policy}

theorem ofConfig_eq_ok_iff :
    ofConfig c = .ok p ↔ c.validate = .ok () ∧
      c.validation.validators.foldl
        (fun p v => p.withValidator v.name (ofValidator (period c.validation.recheckPeriodSecs) v))
        (new (period c.validation.recheckPeriodSecs) c.certificates.maximumValidationFailures) =
          p := by
  rw [ofConfig]
  cases c.validate with
  | error e => exact iff_of_false nofun nofun
  | ok => exact ⟨fun h => ⟨rfl, Except.ok.inj h⟩, fun h => congrArg Except.ok h.2⟩

theorem exists_ofConfig_eq_ok_iff : (∃ p, ofConfig c = .ok p) ↔ c.validate = .ok () := by
  simp [ofConfig_eq_ok_iff]

/-- A period in range is not cut short. -/
theorem period_eq_of_inRange {secs : UInt64} (h : Config.InRange secs) :
    period secs = .ofSeconds secs.toNat := by
  rw [period, Int.min_eq_left]
  exact Int.ofNat_le.2 h.2

theorem ofValidator_eq_treatment (hc : c.Acceptable) {v : ValidatorConfig}
    (hv : v ∈ c.validation.validators) :
    ofValidator (period c.validation.recheckPeriodSecs) v = c.treatment v := by
  have hown := hc.ownPeriods v hv
  rw [ofValidator, Config.treatment]
  cases hsecs : v.recheckPeriodSecs with
  | none => rw [Option.elim_none, Option.getD_none, period_eq_of_inRange hc.period]
  | some secs =>
    rw [Option.elim_some, Option.getD_some, period_eq_of_inRange (hown secs hsecs)]

/-- Filing policies one after another is to make a map of them. -/
theorem validators_foldl_withValidator (f : ValidatorConfig → ValidatorPolicy)
    (vs : List ValidatorConfig) (p : Policy) :
    (vs.foldl (fun p v => p.withValidator v.name (f v)) p).validators =
      (vs.map fun v => (v.name, f v)).foldl (fun m e => m.insert e.1 e.2) p.validators := by
  induction vs generalizing p with
  | nil => rfl
  | cons v vs ih => exact ih (p.withValidator v.name (f v))

theorem maxValidationFailures_foldl_withValidator (f : ValidatorConfig → ValidatorPolicy)
    (vs : List ValidatorConfig) (p : Policy) :
    (vs.foldl (fun p v => p.withValidator v.name (f v)) p).maxValidationFailures =
      p.maxValidationFailures := by
  induction vs generalizing p with
  | nil => rfl
  | cons v vs ih => exact ih (p.withValidator v.name (f v))

theorem maxValidationFailures_ofConfig (h : ofConfig c = .ok p) :
    p.maxValidationFailures = c.certificates.maximumValidationFailures := by
  obtain ⟨-, rfl⟩ := ofConfig_eq_ok_iff.1 h
  exact maxValidationFailures_foldl_withValidator _ _ _

theorem perm_entries_ofConfig (h : ofConfig c = .ok p) :
    p.validators.entries.Perm
      (c.validation.validators.map fun v => (v.name, c.treatment v)) := by
  obtain ⟨hvalid, rfl⟩ := ofConfig_eq_ok_iff.1 h
  have hc := Config.validate_eq_ok_iff.1 hvalid
  have hsame : (c.validation.validators.map fun v =>
      (v.name, ofValidator (period c.validation.recheckPeriodSecs) v)) =
        c.validation.validators.map fun v => (v.name, c.treatment v) :=
    List.map_congr_left fun v hv => congrArg _ (ofValidator_eq_treatment hc hv)
  rw [validators_foldl_withValidator, hsame]
  refine SortedMap.perm_ofList ?_
  rw [List.map_map]
  exact hc.distinct

/-- Names stand in strictly ascending order. -/
theorem pairwise_keys_validators (p : Policy) : p.validators.keys.Pairwise (· < ·) :=
  p.validators.pairwise_keys.imp fun h => compareOfLessAndEq_eq_lt.1 h

end Policy

namespace Config

/-- A configuration is accepted exactly if it is acceptable, and only then is there a policy of it.
    The policy treats each validator of the configuration as that says, no other, and has them in
    strictly ascending order of their names. -/
theorem acceptance_exact (c : Config) :
    (c.validate = .ok () ↔ c.Acceptable) ∧
      ((∃ p, Policy.ofConfig c = .ok p) ↔ c.Acceptable) ∧
        ∀ p, Policy.ofConfig c = .ok p →
          p.validators.entries.Perm
              (c.validation.validators.map fun v => (v.name, c.treatment v)) ∧
            p.validators.keys.Pairwise (· < ·) := by
  refine ⟨validate_eq_ok_iff, ?_, fun p hp => ?_⟩
  · exact Policy.exists_ofConfig_eq_ok_iff.trans validate_eq_ok_iff
  · exact ⟨Policy.perm_entries_ofConfig hp, Policy.pairwise_keys_validators p⟩

/-- Four validators. The first requires two others, which both require the last, and the last
    requires what is given. -/
def diamond (required : List String) : Config :=
  ⟨⟨60, [⟨"report", false, .allowedToFail, none, ["scan", "lint"]⟩,
    ⟨"scan", true, .mustSucceed, some 604800, ["unpack"]⟩,
    ⟨"lint", true, .allowedToFail, some 1, ["unpack"]⟩,
    ⟨"unpack", true, .mustSucceed, none, required⟩]⟩, ⟨1⟩⟩

/-- Where every requirement goes down by some measure, none comes back. -/
theorem not_transGen_of_lt {c : Config} (measure : String → Nat)
    (h : ∀ v ∈ c.validation.validators, ∀ b ∈ v.requiredValidations, measure b < measure v.name)
    (name : String) : ¬TransGen c.Requires name name := by
  have hlt {a b : String} (hab : TransGen c.Requires a b) : measure b < measure a := by
    induction hab with
    | single hab =>
      obtain ⟨v, hv, rfl, hb⟩ := hab
      exact h v hv _ hb
    | tail _ hbc ih =>
      obtain ⟨v, hv, rfl, hc⟩ := hbc
      exact Nat.lt_trans (h v hv _ hc) ih
  exact fun hcycle => Nat.lt_irrefl _ (hlt hcycle)

/-- The default configuration passes its own check. -/
theorem acceptable_default : default.Acceptable where
  period := by decide
  ownPeriods := by simp [default, ValidationConfig.default]
  named := by simp [default, ValidationConfig.default]
  distinct := by decide
  started := by decide
  acyclic := not_transGen_of_lt (fun _ => 0) (by simp [default, ValidationConfig.default])
  tolerance := by decide

theorem acceptable_diamond : (diamond []).Acceptable where
  period := by decide
  ownPeriods := by simp [diamond, InRange]
  named := by simp [diamond, Text.isBlank]
  distinct := by decide
  started := by decide
  acyclic := not_transGen_of_lt
    (fun name => if name = "report" then 2 else if name = "unpack" then 0 else 1) (by decide)
  tolerance := by decide

theorem acceptance_exact_diamond :
    (∃ p, Policy.ofConfig (diamond []) = .ok p ∧
      p.validators.entries.Perm ((diamond []).validation.validators.map fun v =>
        (v.name, (diamond []).treatment v)) ∧
        p.validators.find? "report" = some ⟨false, .allowedToFail, .ofSeconds 60⟩) ∧
      (diamond ["report"]).validate ≠ .ok () := by
  constructor
  · obtain ⟨-, hpolicy, htreats⟩ := acceptance_exact (diamond [])
    obtain ⟨p, hp⟩ := hpolicy.2 acceptable_diamond
    obtain ⟨hperm, -⟩ := htreats p hp
    refine ⟨p, hp, hperm, ?_⟩
    rw [SortedMap.find?_eq_some_iff, hperm.mem_iff]
    decide
  · intro hvalid
    have hc := (acceptance_exact (diamond ["report"])).1.1 hvalid
    have hdown : TransGen (diamond ["report"]).Requires "report" "unpack" :=
      .tail (.single ⟨_, List.mem_cons_self, rfl, by decide⟩)
        ⟨_, List.mem_cons_of_mem _ List.mem_cons_self, rfl, by decide⟩
    have hback : (diamond ["report"]).Requires "unpack" "report" :=
      ⟨⟨"unpack", true, .mustSucceed, none, ["report"]⟩, by decide, rfl, by decide⟩
    exact hc.acyclic "report" (hdown.tail hback)

end Config

end Admission
