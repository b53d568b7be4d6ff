import Mathlib.Data.List.Count
import Mathlib.Data.List.Perm.Basic
import Admission.Proofs.Config.Acceptance

/-!
What a configuration is refused with. The check goes through the validators in order; gathered by
kind, its problems are a blank name for each validator without a name, a repetition for each name
that stands again, and a period for each that is out of range (`perm_validatorProblems`). The other
checks add theirs independently, so no problem hides another, with one exception: of a validator
without a name the period is not looked at (`reports_all_iff`).
-/

namespace Admission.Config

variable {c : Config} {vs : List ValidatorConfig} {scope name : String} {secs : UInt64}

/-- The problems that a configuration is refused with. -/
def reported (c : Config) : List ConfigProblem :=
  match c.validate with
  | .ok () => []
  | .error refusal => refusal.problems

/-- The re-check periods that a configuration gives: the default and those of single validators. -/
def periods (c : Config) : List UInt64 :=
  c.validation.recheckPeriodSecs :: c.validation.validators.filterMap (·.recheckPeriodSecs)

theorem reported_eq (c : Config) : c.reported = c.problems := by
  rw [reported, validate]
  rcases c.problems with _ | ⟨p, _ | ⟨q, ps⟩⟩ <;> rfl

/-- Several problems are told of together exactly if there are two at least. -/
theorem validate_eq_multiple_iff {ps : List ConfigProblem} :
    c.validate = .error (.multiple ps) ↔ c.reported = ps ∧ 2 ≤ ps.length := by
  rw [reported_eq, validate]
  rcases c.problems with _ | ⟨p, _ | ⟨q, l⟩⟩
  · simp +contextual [eq_comm]
  · simp +contextual [eq_comm]
  · simp +contextual [eq_comm]

/-! ### Problems of validators by themselves -/

/-- The names that have stood before, each time they stand again. -/
def repeats (seen : List String) : List String → List String
  | [] => []
  | name :: rest => (if seen.contains name then [name] else []) ++ repeats (name :: seen) rest

/-- The problem of a validator's own period. -/
def ownProblems (v : ValidatorConfig) : List ConfigProblem :=
  v.recheckPeriodSecs.elim [] (periodProblems v.name)

/-- A name is repeated once less than it stands there, or as often if it has stood before. -/
theorem count_repeats (seen l : List String) (name : String) :
    (repeats seen l).count name = l.count name - if name ∈ seen then 0 else 1 := by
  induction l generalizing seen with
  | nil => simp [repeats]
  | cons a l ih =>
    rw [repeats, List.count_append, ih, List.count_cons]
    by_cases ha : a = name
    · subst ha
      by_cases hseen : a ∈ seen
      · simp [hseen, Nat.add_comm]
      · simp [hseen]
    · have hmem : name ∈ a :: seen ↔ name ∈ seen := by simp [Ne.symm ha]
      have hzero : (if seen.contains a = true then [a] else []).count name = 0 := by
        split <;> simp [ha]
      rw [hzero, if_congr hmem rfl rfl]
      simp [ha]

theorem perm_validatorProblems (seen : List String) (vs : List ValidatorConfig) :
    (validatorProblems seen vs).Perm
      (((vs.filter fun v => Text.allBlank v.name).map fun _ => .emptyValidatorName) ++
        (((repeats seen ((named vs).map (·.name))).map .duplicateValidator) ++
          (named vs).flatMap ownProblems)) := by
  induction vs generalizing seen with
  | nil => exact .refl _
  | cons v vs ih =>
    rw [validatorProblems, named]
    cases hblank : Text.allBlank v.name with
    | true =>
      simp only [hblank, if_true, List.filter_cons, Bool.not_true, Bool.false_eq_true, if_false,
        List.map_cons, List.cons_append]
      exact (ih seen).cons _
    | false =>
      simp only [hblank, Bool.false_eq_true, if_false, List.filter_cons, Bool.not_false, if_true,
        List.map_cons, List.flatMap_cons, repeats, List.map_append]
      have hdup : (if seen.contains v.name = true then [v.name] else []).map
          ConfigProblem.duplicateValidator =
            if seen.contains v.name = true then [.duplicateValidator v.name] else [] := by
        split <;> rfl
      rw [hdup]
      have hrest := ih (v.name :: seen)
      rw [List.perm_iff_count] at hrest ⊢
      intro q
      have hq := hrest q
      simp only [List.count_append, named, ownProblems] at hq ⊢
      omega

/-! ### Problems of prerequisites -/

theorem find?_byName_eq_none_iff :
    (byName vs).find? name = none ↔ name ∉ (named vs).map (·.name) := by
  rw [byName, SortedMap.find?_ofValues, List.find?_eq_none]
  simp [named]

theorem filter_prerequisiteProblems (validator required : String) :
    (prerequisiteProblems (byName vs) validator required).filter
        (·.kind = "UnknownRequiredValidation") =
      if required ∈ (named vs).map (·.name) then []
      else [.unknownRequiredValidation validator required] := by
  rw [prerequisiteProblems]
  cases hfind : (byName vs).find? required with
  | none => rw [if_neg (find?_byName_eq_none_iff.1 hfind)]; rfl
  | some v =>
    have hknown : required ∈ (named vs).map (·.name) := by
      by_contra h
      rw [find?_byName_eq_none_iff.2 h] at hfind
      cases hfind
    rw [if_pos hknown]
    dsimp only
    split <;> rfl

/-- A prerequisite that is no validator's name is told of each time that it stands there. -/
theorem filter_requirementProblems (ws : List ValidatorConfig) :
    (requirementProblems (byName vs) ws).filter (·.kind = "UnknownRequiredValidation") =
      ws.flatMap fun v => (v.requiredValidations.filter (· ∉ (named vs).map (·.name))).map
        (.unknownRequiredValidation v.name) := by
  rw [requirementProblems, List.filter_flatMap]
  congr 1
  funext v
  rw [List.filter_flatMap]
  induction v.requiredValidations with
  | nil => rfl
  | cons required rest ih =>
    rw [List.flatMap_cons, ih, filter_prerequisiteProblems, List.filter_cons]
    by_cases h : required ∈ (named vs).map (·.name) <;> simp [h]

/-! ### Problems by kind -/

/-- The problems of a configuration, gathered by kind. -/
def byKind (c : Config) : List (String × List ConfigProblem) :=
  let vs := c.validation.validators
  [("InvalidRecheckPeriod", periodProblems "validation" c.validation.recheckPeriodSecs ++
      (named vs).flatMap ownProblems),
    ("EmptyValidatorName", (vs.filter fun v => Text.allBlank v.name).map fun _ =>
      .emptyValidatorName),
    ("DuplicateValidator", (repeats [] ((named vs).map (·.name))).map .duplicateValidator),
    ("UnknownRequiredValidation",
      (requirementProblems (byName vs) vs).filter (·.kind = "UnknownRequiredValidation")),
    ("PrerequisiteNotStarted",
      (requirementProblems (byName vs) vs).filter (·.kind = "PrerequisiteNotStarted")),
    ("DependencyCycle", (Dependencies.findCycle? (byName vs)).toList.map .dependencyCycle),
    ("InvalidMaximumValidationFailures",
      if c.certificates.maximumValidationFailures == 0 then [.invalidMaximumValidationFailures]
      else [])]

theorem kind_of_mem_periodProblems {p : ConfigProblem} (hp : p ∈ periodProblems scope secs) :
    p.kind = "InvalidRecheckPeriod" := by
  rw [periodProblems] at hp
  split at hp
  · rw [List.mem_singleton.1 hp]
    rfl
  · cases hp

theorem kind_of_mem_ownProblems {v : ValidatorConfig} {p : ConfigProblem}
    (hp : p ∈ ownProblems v) : p.kind = "InvalidRecheckPeriod" := by
  rw [ownProblems] at hp
  cases hsecs : v.recheckPeriodSecs with
  | none => simp [hsecs] at hp
  | some secs =>
    rw [hsecs] at hp
    exact kind_of_mem_periodProblems hp

/-- What is wrong with a prerequisite is that it is unknown or not started. -/
theorem kind_of_mem_requirementProblems {byName : Dependencies.ByName} {p : ConfigProblem}
    (hp : p ∈ requirementProblems byName vs) :
    p.kind = "UnknownRequiredValidation" ∨ p.kind = "PrerequisiteNotStarted" := by
  obtain ⟨v, -, hp⟩ := List.mem_flatMap.1 hp
  obtain ⟨required, -, hp⟩ := List.mem_flatMap.1 hp
  rw [prerequisiteProblems] at hp
  split at hp
  · rw [List.mem_singleton.1 hp]
    exact .inl rfl
  · split at hp
    · cases hp
    · rw [List.mem_singleton.1 hp]
      exact .inr rfl

theorem kind_of_mem_byKind {k : String} {l : List ConfigProblem} (hl : (k, l) ∈ c.byKind)
    {p : ConfigProblem} (hp : p ∈ l) : p.kind = k := by
  simp only [byKind, List.mem_cons, Prod.mk.injEq, List.not_mem_nil, or_false] at hl
  rcases hl with ⟨rfl, rfl⟩ | ⟨rfl, rfl⟩ | ⟨rfl, rfl⟩ | ⟨rfl, rfl⟩ | ⟨rfl, rfl⟩ | ⟨rfl, rfl⟩ |
    ⟨rfl, rfl⟩
  · rcases List.mem_append.1 hp with hp | hp
    · exact kind_of_mem_periodProblems hp
    · obtain ⟨v, -, hp⟩ := List.mem_flatMap.1 hp
      exact kind_of_mem_ownProblems hp
  · obtain ⟨v, -, rfl⟩ := List.mem_map.1 hp
    rfl
  · obtain ⟨name, -, rfl⟩ := List.mem_map.1 hp
    rfl
  · exact of_decide_eq_true (List.mem_filter.1 hp).2
  · exact of_decide_eq_true (List.mem_filter.1 hp).2
  · obtain ⟨name, -, rfl⟩ := List.mem_map.1 hp
    rfl
  · split at hp
    · rw [List.mem_singleton.1 hp]
      rfl
    · cases hp

theorem perm_requirementProblems (byName : Dependencies.ByName) (vs : List ValidatorConfig) :
    (requirementProblems byName vs).Perm
      ((requirementProblems byName vs).filter (·.kind = "UnknownRequiredValidation") ++
        (requirementProblems byName vs).filter (·.kind = "PrerequisiteNotStarted")) := by
  have hrest : (requirementProblems byName vs).filter
        (fun p => !decide (p.kind = "UnknownRequiredValidation")) =
      (requirementProblems byName vs).filter (·.kind = "PrerequisiteNotStarted") := by
    refine List.filter_congr fun p hp => ?_
    rcases kind_of_mem_requirementProblems hp with h | h <;> simp [h]
  rw [← hrest]
  exact (List.filter_append_perm _ _).symm

theorem perm_reported (c : Config) : c.reported.Perm (c.byKind.flatMap (·.2)) := by
  have hcycle : ((Dependencies.findCycle? (byName c.validation.validators)).elim [] fun name =>
      [ConfigProblem.dependencyCycle name]) =
        (Dependencies.findCycle? (byName c.validation.validators)).toList.map
          .dependencyCycle := by
    cases Dependencies.findCycle? (byName c.validation.validators) <;> rfl
  have hvalidators := perm_validatorProblems [] c.validation.validators
  have hrequirements := perm_requirementProblems (byName c.validation.validators)
    c.validation.validators
  rw [reported_eq, problems, hcycle, List.perm_iff_count]
  rw [List.perm_iff_count] at hvalidators hrequirements
  intro p
  have h1 := hvalidators p
  have h2 := hrequirements p
  simp only [byKind, List.flatMap_cons, List.flatMap_nil, List.count_append,
    List.append_nil] at h1 h2 ⊢
  omega

/-- Of lists of different kinds one after another, the problems of one kind make up one. -/
theorem filter_flatMap_of_kinds {ls : List (String × List ConfigProblem)} {k : String}
    {l : List ConfigProblem} (hkind : ∀ e ∈ ls, ∀ p ∈ e.2, p.kind = e.1)
    (hdistinct : (ls.map (·.1)).Nodup) (hl : (k, l) ∈ ls) :
    (ls.flatMap (·.2)).filter (·.kind = k) = l := by
  induction ls with
  | nil => cases hl
  | cons e ls ih =>
    obtain ⟨hnew, hdistinct⟩ := List.nodup_cons.1 hdistinct
    have hrest : ∀ e ∈ ls, ∀ p ∈ e.2, p.kind = e.1 :=
      fun e he => hkind e (List.mem_cons_of_mem _ he)
    rw [List.flatMap_cons, List.filter_append]
    rcases List.mem_cons.1 hl with rfl | hl
    · have hself : l.filter (·.kind = k) = l :=
        List.filter_eq_self.2 fun p hp => decide_eq_true (hkind _ List.mem_cons_self p hp)
      have hother : (ls.flatMap (·.2)).filter (·.kind = k) = [] := by
        rw [List.filter_eq_nil_iff]
        intro p hp hpk
        obtain ⟨e, he, hp⟩ := List.mem_flatMap.1 hp
        have hek : e.1 = k := (hrest e he p hp).symm.trans (of_decide_eq_true hpk)
        exact hnew (List.mem_map.2 ⟨e, he, hek⟩)
      rw [hself, hother, List.append_nil]
    · have hother : e.2.filter (·.kind = k) = [] := by
        rw [List.filter_eq_nil_iff]
        intro p hp hpk
        have hek : e.1 = k :=
          (hkind e List.mem_cons_self p hp).symm.trans (of_decide_eq_true hpk)
        exact hnew (List.mem_map.2 ⟨(k, l), hl, hek.symm⟩)
      rw [hother, List.nil_append, ih hrest hdistinct hl]

theorem perm_filter_reported {k : String} {l : List ConfigProblem} (hl : (k, l) ∈ c.byKind) :
    (c.reported.filter (·.kind = k)).Perm l := by
  have hdistinct : (c.byKind.map (·.1)).Nodup := by simp [byKind]
  rw [← filter_flatMap_of_kinds (fun e he p hp => kind_of_mem_byKind he hp) hdistinct hl]
  exact (perm_reported c).filter _

/-! ### Periods -/

theorem length_periodProblems (scope : String) (secs : UInt64) :
    (periodProblems scope secs).length = if InRange secs then 0 else 1 := by
  have hle : (periodProblems scope secs).length ≤ 1 := by
    rw [periodProblems]
    split <;> simp
  have hzero : (periodProblems scope secs).length = 0 ↔ InRange secs := by
    rw [List.length_eq_zero_iff, periodProblems_eq_nil_iff]
  split
  · rename_i h
    exact hzero.2 h
  · rename_i h
    have hne := mt hzero.1 h
    omega

theorem length_flatMap_ownProblems (vs : List ValidatorConfig) :
    (vs.flatMap ownProblems).length =
      (vs.filterMap (·.recheckPeriodSecs)).countP (¬InRange ·) := by
  induction vs with
  | nil => rfl
  | cons v vs ih =>
    rw [List.flatMap_cons, List.length_append, ih, ownProblems]
    cases hsecs : v.recheckPeriodSecs with
    | none => rw [List.filterMap_cons_none hsecs]; simp
    | some secs =>
      rw [List.filterMap_cons_some hsecs, List.countP_cons, Option.elim_some, length_periodProblems]
      by_cases h : InRange secs <;> simp [h, Nat.add_comm]

/-- As many periods are reported as are out of range, but for those of validators without a name. -/
theorem countP_periods (c : Config) :
    c.reported.countP (·.kind = "InvalidRecheckPeriod") +
        ((c.validation.validators.filter fun v => Text.allBlank v.name).filterMap
          (·.recheckPeriodSecs)).countP (¬InRange ·) =
      c.periods.countP (¬InRange ·) := by
  have hsplit : ((c.validation.validators.filter fun v => Text.allBlank v.name).filterMap
        (·.recheckPeriodSecs) ++
      (named c.validation.validators).filterMap (·.recheckPeriodSecs)).Perm
        (c.validation.validators.filterMap (·.recheckPeriodSecs)) := by
    rw [← List.filterMap_append]
    exact (List.filter_append_perm _ _).filterMap _
  have hreported := (perm_filter_reported (c := c) List.mem_cons_self).length_eq
  rw [← List.countP_eq_length_filter, List.length_append, length_periodProblems,
    length_flatMap_ownProblems] at hreported
  rw [hreported, periods, List.countP_cons, ← hsplit.countP_eq, List.countP_append]
  by_cases h : InRange c.validation.recheckPeriodSecs <;> simp [h] <;> omega

theorem countP_periods_eq_iff (c : Config) :
    c.reported.countP (·.kind = "InvalidRecheckPeriod") = c.periods.countP (¬InRange ·) ↔
      ∀ v ∈ c.validation.validators, Text.allBlank v.name = true →
        ∀ secs ∈ v.recheckPeriodSecs, InRange secs := by
  rw [← countP_periods c]
  refine Nat.left_eq_add.trans ?_
  simp only [List.countP_eq_zero, List.mem_filterMap, List.mem_filter, decide_eq_true_eq, not_not]
  constructor
  · exact fun h v hv hblank secs hsecs => h secs ⟨v, ⟨hv, hblank⟩, hsecs⟩
  · rintro h secs ⟨v, ⟨hv, hblank⟩, hsecs⟩
    exact h v hv hblank secs hsecs

/-! ### The report -/

/-- A problem is reported as often as it stands under its kind. -/
theorem count_reported {p : ConfigProblem} {l : List ConfigProblem} (hl : (p.kind, l) ∈ c.byKind) :
    c.reported.count p = l.count p := by
  rw [← (perm_filter_reported hl).count_eq]
  exact (List.count_filter (by simp)).symm

theorem count_named (vs : List ValidatorConfig) (name : String) :
    ((named vs).map (·.name)).count name =
      if Text.allBlank name then 0 else (vs.map (·.name)).count name := by
  have hfilter : (named vs).map (·.name) = (vs.map (·.name)).filter fun n => !Text.allBlank n := by
    rw [named, List.filter_map]
    rfl
  rw [hfilter]
  split
  · rename_i hblank
    exact List.count_eq_zero.2 fun h => by simp [hblank] at h
  · rename_i hblank
    exact List.count_filter (by simpa using hblank)

theorem count_duplicateValidator (c : Config) (name : String) :
    c.reported.count (.duplicateValidator name) =
      if Text.allBlank name then 0 else (c.validation.validators.map (·.name)).count name - 1 := by
  have hinj : Function.Injective ConfigProblem.duplicateValidator :=
    fun _ _ => ConfigProblem.duplicateValidator.inj
  have hl : ("DuplicateValidator",
      (repeats [] ((named c.validation.validators).map (·.name))).map .duplicateValidator) ∈
        c.byKind := by
    simp [byKind]
  rw [count_reported hl, List.count_map_of_injective _ _ hinj, count_repeats, count_named]
  split <;> simp

theorem count_emptyValidatorName (c : Config) :
    c.reported.count .emptyValidatorName =
      c.validation.validators.countP (Text.allBlank ·.name) := by
  have hl : ("EmptyValidatorName",
      (c.validation.validators.filter fun v => Text.allBlank v.name).map fun _ =>
        ConfigProblem.emptyValidatorName) ∈ c.byKind := by
    simp [byKind]
  rw [count_reported hl, List.map_const', List.count_replicate_self, List.countP_eq_length_filter]

theorem count_invalidMaximumValidationFailures (c : Config) :
    c.reported.count .invalidMaximumValidationFailures =
      if c.certificates.maximumValidationFailures = 0 then 1 else 0 := by
  have hl : ("InvalidMaximumValidationFailures",
      if c.certificates.maximumValidationFailures == 0 then
        [ConfigProblem.invalidMaximumValidationFailures] else []) ∈ c.byKind := by
    simp [byKind]
  rw [count_reported hl]
  by_cases h : c.certificates.maximumValidationFailures = 0 <;> simp [h]

theorem perm_unknownRequiredValidations (c : Config) :
    (c.reported.filter (·.kind = "UnknownRequiredValidation")).Perm
      (c.validation.validators.flatMap fun v =>
        (v.requiredValidations.filter
          (· ∉ (named c.validation.validators).map (·.name))).map
            (.unknownRequiredValidation v.name)) := by
  rw [← filter_requirementProblems]
  exact perm_filter_reported (by simp [byKind])

/-- Whatever else is wrong with a configuration, it is refused with a problem for each blank name,
    for each time that a name stands again, for each prerequisite that is no validator's name, and
    for a maximum of zero; and with a problem for each period out of range exactly if no validator
    without a name has such a period of its own. -/
theorem reports_all_iff (c : Config) :
    let vs := c.validation.validators
    (∀ ps, c.validate = .error (.multiple ps) ↔ c.reported = ps ∧ 2 ≤ ps.length) ∧
      (c.reported.countP (·.kind = "InvalidRecheckPeriod") = c.periods.countP (¬InRange ·) ↔
        ∀ v ∈ vs, Text.allBlank v.name = true → ∀ secs ∈ v.recheckPeriodSecs, InRange secs) ∧
      c.reported.count .emptyValidatorName = vs.countP (Text.allBlank ·.name) ∧
      (∀ name, c.reported.count (.duplicateValidator name) =
        if Text.allBlank name then 0 else (vs.map (·.name)).count name - 1) ∧
      (c.reported.filter (·.kind = "UnknownRequiredValidation")).Perm
        (vs.flatMap fun v => (v.requiredValidations.filter (· ∉ (named vs).map (·.name))).map
          (.unknownRequiredValidation v.name)) ∧
      c.reported.count .invalidMaximumValidationFailures =
        if c.certificates.maximumValidationFailures = 0 then 1 else 0 := by
  intro vs
  exact ⟨fun ps => validate_eq_multiple_iff, countP_periods_eq_iff c, count_emptyValidatorName c,
    count_duplicateValidator c, perm_unknownRequiredValidations c,
    count_invalidMaximumValidationFailures c⟩

/-- A configuration with everything wrong: every period but one, a validator without a name, one
    that stands twice, prerequisites that are nobody's name, and a maximum of zero. -/
def muddled : Config :=
  ⟨⟨0, [⟨" ", true, .mustSucceed, some 60, ["scam", " "]⟩,
    ⟨"scan", true, .mustSucceed, some 604801, ["scan"]⟩,
    ⟨"scan", false, .allowedToFail, none, ["scam", "scan", "scam"]⟩]⟩, ⟨0⟩⟩

theorem reports_all_iff_muddled :
    (∃ ps, muddled.validate = .error (.multiple ps)) ∧
      muddled.reported.countP (·.kind = "InvalidRecheckPeriod") = 2 ∧
      muddled.reported.count .emptyValidatorName = 1 ∧
      muddled.reported.count (.duplicateValidator "scan") = 1 ∧
      (muddled.reported.filter (·.kind = "UnknownRequiredValidation")).Perm
        [.unknownRequiredValidation " " "scam", .unknownRequiredValidation " " " ",
          .unknownRequiredValidation "scan" "scam", .unknownRequiredValidation "scan" "scam"] ∧
      muddled.reported.count .invalidMaximumValidationFailures = 1 := by
  obtain ⟨hmultiple, hperiods, hblank, hrepeated, hunknown, hmaximum⟩ := reports_all_iff muddled
  have hinRange : ∀ v ∈ muddled.validation.validators, Text.allBlank v.name = true →
      ∀ secs ∈ v.recheckPeriodSecs, InRange secs := by
    simp only [muddled, List.forall_mem_cons, Option.mem_def, Option.some.injEq, forall_eq',
      reduceCtorEq, false_implies, implies_true]
    decide
  have hcount := (hperiods.2 hinRange).trans (show _ = 2 by decide)
  have hmany : 2 ≤ muddled.reported.length := hcount ▸ List.countP_le_length
  exact ⟨⟨_, (hmultiple _).2 ⟨rfl, hmany⟩⟩, hcount, hblank.trans (by decide),
    (hrepeated "scan").trans (by decide), hunknown, hmaximum⟩

/-- A validator without a name, and with a period of no seconds. -/
def nameless : Config := ⟨⟨60, [⟨"", true, .mustSucceed, some 0, []⟩]⟩, ⟨5⟩⟩

/-- That a validator has no name keeps its period from being told of. -/
theorem not_reports_all :
    ¬∀ c : Config,
      c.reported.countP (·.kind = "InvalidRecheckPeriod") = c.periods.countP (¬InRange ·) := by
  intro h
  have hall := countP_periods nameless
  have hhidden : ((nameless.validation.validators.filter fun v =>
      Text.allBlank v.name).filterMap (·.recheckPeriodSecs)).countP (¬InRange ·) = 1 := by decide
  rw [h nameless, hhidden] at hall
  omega

end Admission.Config
