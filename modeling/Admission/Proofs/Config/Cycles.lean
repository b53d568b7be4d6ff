import Mathlib.Data.List.Sort
import Mathlib.Data.String.Basic
import Mathlib.Data.List.Perm.Subperm
import Admission.Proofs.Config.Reporting

/-!
The cycle that a configuration is refused for. The search goes no deeper than there are validators
(`visitWithin_eq`), and neither the order of the validators nor the order in which their names come
out of the map has a say in what it finds (`search_eq`). So a cycle is reported exactly if there is
one among the validators that have a name, always the same, and at a name that lies on it
(`cycle_reported`).
-/

namespace Admission

open Relation (TransGen)

namespace Dependencies

variable {byName : ByName} {path done names : List String} {name : String} {depth : Nat}

/-! ### The depth of the search -/

/-- Visits each name of a list, up to the first from which there is a cycle. A visit may give up. -/
def visitEach (visit : List String → String → Option (Option String × List String))
    (done : List String) : List String → Option (Option String × List String)
  | [] => some (none, done)
  | name :: rest =>
    match visit done name with
    | none => none
    | some (some cycle, done) => some (some cycle, done)
    | some (none, done) => visitEach visit done rest

/-- The search from a name on that gives up where more visits than the depth stand open at once. -/
def visitWithin (byName : ByName) :
    Nat → List String → List String → String → Option (Option String × List String)
  | 0, _, _, _ => none
  | depth + 1, path, done, name =>
    if done.contains name then some (none, done)
    else if path.contains name then some (some name, done)
    else
      match byName.find? name with
      | none => some (none, name :: done)
      | some v =>
        match visitEach (visitWithin byName depth (name :: path)) done v.requiredValidations with
        | none => none
        | some (some cycle, done) => some (some cycle, done)
        | some (none, done) => some (none, name :: done)

/-- The search over a map whose names come in some order. They are put in order first. -/
def search (byName : ByName) (depth : Nat) (names : List String) : Option (Option String) :=
  (visitEach (visitWithin byName depth []) [] (names.mergeSort (· ≤ ·))).map (·.1)

theorem remaining_lt_of_find? {v : ValidatorConfig} (hfind : byName.find? name = some v)
    (hoff : ¬path.contains name = true) :
    remaining byName (name :: path) < remaining byName path := by
  refine remaining_cons_lt ?_ (Bool.eq_false_iff.2 hoff)
  exact SortedMap.mem_keys_iff.2 (SortedMap.contains_iff.2 ⟨v, hfind⟩)

/-- A name that is not configured is settled at once. -/
theorem visit_of_find?_eq_none (hnew : ¬done.contains name = true)
    (hoff : ¬path.contains name = true) (hfind : byName.find? name = none) :
    visit byName path done name = (none, name :: done) := by
  rw [visit, if_neg hnew, dif_neg hoff]
  split
  · rfl
  · simp_all

/-- Where the names that a name needs are searched to the end, so is the name. -/
theorem visitWithin_of_find? {v : ValidatorConfig} (hnew : ¬done.contains name = true)
    (hoff : ¬path.contains name = true) (hfind : byName.find? name = some v)
    (hdepth : remaining byName path ≤ depth)
    (hneeds : ∀ depth, remaining byName (name :: path) ≤ depth →
      visitEach (visitWithin byName (depth + 1) (name :: path)) done v.requiredValidations =
        some (visitAll byName (name :: path) done v.requiredValidations)) :
    visitWithin byName (depth + 1) path done name = some (visit byName path done name) := by
  have hlt := remaining_lt_of_find? hfind hoff
  obtain ⟨depth, rfl⟩ : ∃ d, depth = d + 1 := ⟨depth - 1, by omega⟩
  rw [visitWithin, if_neg hnew, if_neg hoff, hfind, visit_of_find? hnew hoff hfind]
  dsimp only
  rw [hneeds depth (by omega)]
  rcases visitAll byName (name :: path) done v.requiredValidations with ⟨_ | cycle, done'⟩ <;> rfl

/-- A search that may go deeper than there are names off the path does not give up. -/
theorem visitWithin_eq (byName : ByName) :
    (∀ path done name depth, remaining byName path ≤ depth →
      visitWithin byName (depth + 1) path done name = some (visit byName path done name)) ∧
    ∀ path done names depth, remaining byName path ≤ depth →
      visitEach (visitWithin byName (depth + 1) path) done names =
        some (visitAll byName path done names) := by
  apply visit.mutual_induct byName
    (fun path done name => ∀ depth, remaining byName path ≤ depth →
      visitWithin byName (depth + 1) path done name = some (visit byName path done name))
    (fun path done names => ∀ depth, remaining byName path ≤ depth →
      visitEach (visitWithin byName (depth + 1) path) done names =
        some (visitAll byName path done names))
  case case1 =>
    intro path done name hmem depth _
    rw [visitWithin, if_pos hmem, visit, if_pos hmem]
  case case2 =>
    intro path done name hnew hmem depth _
    rw [visitWithin, if_neg hnew, if_pos hmem, visit, if_neg hnew, dif_pos hmem]
  case case3 =>
    intro path done name hnew hoff hfind depth _
    rw [visitWithin, if_neg hnew, if_neg hoff, hfind, visit_of_find?_eq_none hnew hoff hfind]
  case case4 =>
    intro path done name hnew hoff v hfind cycle done' _ ih depth hdepth
    exact visitWithin_of_find? hnew hoff hfind hdepth ih
  case case5 =>
    intro path done name hnew hoff v hfind done' _ ih depth hdepth
    exact visitWithin_of_find? hnew hoff hfind hdepth ih
  case case6 =>
    intro path done depth _
    rw [visitEach, visitAll]
  case case7 =>
    intro path done name rest cycle done' hvisit ih depth hdepth
    rw [visitEach, ih depth hdepth, visitAll, hvisit]
  case case8 =>
    intro path done name rest done' hvisit ih ihrest depth hdepth
    rw [visitEach, ih depth hdepth, visitAll, hvisit]
    exact ihrest depth hdepth

/-! ### The order of the names -/

theorem mergeSort_eq_keys (hnames : names.Perm byName.keys) :
    names.mergeSort (· ≤ ·) = byName.keys := by
  have hperm := (List.mergeSort_perm names (· ≤ ·)).trans hnames
  refine hperm.eq_of_pairwise' (List.pairwise_mergeSort' (· ≤ ·) names) ?_
  exact byName.pairwise_keys.imp fun h => (compareOfLessAndEq_eq_lt.1 h).le

/-- However the names come out of the map, a search that may go as deep as there are names ends, and
    finds the same. -/
theorem search_eq (hnames : names.Perm byName.keys) (hdepth : byName.keys.length ≤ depth) :
    search byName (depth + 1) names = some (findCycle? byName) := by
  have hremaining : remaining byName [] ≤ depth :=
    Nat.le_trans (List.length_filter_le _ _) hdepth
  rw [search, mergeSort_eq_keys hnames, (visitWithin_eq byName).2 [] [] _ depth hremaining]
  rfl

end Dependencies

namespace Config

variable {c : Config} {vs ws : List ValidatorConfig} {a b name : String}

/-! ### Cycles among the validators that have a name -/

/-- A validator that has a name requires another that has one. -/
def RequiresNamed (c : Config) (a b : String) : Prop :=
  ∃ v ∈ named c.validation.validators, v.name = a ∧ b ∈ v.requiredValidations ∧
    b ∈ (named c.validation.validators).map (·.name)

/-- The configuration with other validators. -/
def withValidators (c : Config) (vs : List ValidatorConfig) : Config :=
  { c with validation := { c.validation with validators := vs } }

/-- What needs something is a validator that has a name. -/
theorem needs_byName_iff (hdistinct : ((named vs).map (·.name)).Nodup) :
    Dependencies.Needs (byName vs) a b ↔
      ∃ v ∈ named vs, v.name = a ∧ b ∈ v.requiredValidations := by
  simp only [Dependencies.Needs, find?_byName_eq_some_iff_mem_named hdistinct, and_assoc]

theorem transGen_requiresNamed
    (hdistinct : ((named c.validation.validators).map (·.name)).Nodup)
    (hab : TransGen (Dependencies.Needs (byName c.validation.validators)) a b)
    (hb : b ∈ (named c.validation.validators).map (·.name)) : TransGen c.RequiresNamed a b := by
  induction hab with
  | single hab =>
    obtain ⟨v, hv, hname, hmem⟩ := (needs_byName_iff hdistinct).1 hab
    exact .single ⟨v, hv, hname, hmem, hb⟩
  | tail _ hbc ih =>
    obtain ⟨v, hv, rfl, hmem⟩ := (needs_byName_iff hdistinct).1 hbc
    exact (ih (List.mem_map_of_mem hv)).tail ⟨v, hv, rfl, hmem, hb⟩

/-- Only validators that have a name are on cycles, as others are not found by theirs. -/
theorem transGen_needs_iff (hdistinct : ((named c.validation.validators).map (·.name)).Nodup) :
    TransGen (Dependencies.Needs (byName c.validation.validators)) a a ↔
      TransGen c.RequiresNamed a a := by
  constructor
  · intro hcycle
    obtain ⟨b, hab, -⟩ := TransGen.head'_iff.1 hcycle
    obtain ⟨v, hv, rfl, -⟩ := (needs_byName_iff hdistinct).1 hab
    exact transGen_requiresNamed hdistinct hcycle (List.mem_map_of_mem hv)
  · refine TransGen.mono (fun a b => ?_) a a
    rintro ⟨v, hv, hname, hmem, -⟩
    exact (needs_byName_iff hdistinct).2 ⟨v, hv, hname, hmem⟩

/-! ### Validators in another order -/

theorem byName_of_perm (hdistinct : ((named vs).map (·.name)).Nodup) (h : ws.Perm vs) :
    byName ws = byName vs := by
  have hnamed : (named ws).Perm (named vs) := h.filter _
  refine SortedMap.ext_find? fun name => Option.ext fun v => ?_
  rw [find?_byName_eq_some_iff_mem_named hdistinct, find?_byName_eq_some_iff_mem_named
    ((hnamed.map _).nodup_iff.2 hdistinct), hnamed.mem_iff]

theorem validatorProblems_perm (h : ws.Perm vs) :
    (validatorProblems [] ws).Perm (validatorProblems [] vs) := by
  have hnamed : (named ws).Perm (named vs) := h.filter _
  have hrepeats : (repeats [] ((named ws).map (·.name))).Perm
      (repeats [] ((named vs).map (·.name))) := by
    rw [List.perm_iff_count]
    intro name
    rw [count_repeats, count_repeats, (hnamed.map _).count_eq]
  have hgathered := ((h.filter (Text.allBlank ·.name)).map fun _ =>
    ConfigProblem.emptyValidatorName).append
      ((hrepeats.map .duplicateValidator).append (hnamed.flatMap_right ownProblems))
  exact ((perm_validatorProblems [] ws).trans hgathered).trans (perm_validatorProblems [] vs).symm

/-- The order of the validators does not show in the problems, but for their order. -/
theorem reported_perm (hdistinct : ((named c.validation.validators).map (·.name)).Nodup)
    (h : ws.Perm c.validation.validators) : (c.withValidators ws).reported.Perm c.reported := by
  have hbyName := byName_of_perm hdistinct h
  rw [reported_eq, reported_eq, problems, problems]
  simp only [withValidators, hbyName]
  exact ((((List.Perm.refl _).append (validatorProblems_perm h)).append
    (h.flatMap_right _)).append_right _).append_right _

/-! ### The report of a cycle -/

theorem length_keys_byName_le (vs : List ValidatorConfig) :
    (byName vs).keys.length ≤ vs.length := by
  have hsubset : (byName vs).keys ⊆ (named vs).map (·.name) := by
    intro name hname
    obtain ⟨v, hv⟩ := SortedMap.contains_iff.1 (SortedMap.mem_keys_iff.1 hname)
    by_contra h
    rw [find?_byName_eq_none_iff.2 h] at hv
    cases hv
  have hnodup : (byName vs).keys.Nodup :=
    (byName vs).pairwise_keys.imp fun h => by
      rintro rfl
      simp at h
  calc (byName vs).keys.length ≤ ((named vs).map (·.name)).length :=
        (List.subperm_of_subset hnodup hsubset).length_le
    _ = (named vs).length := List.length_map _
    _ ≤ vs.length := List.length_filter_le _ _

theorem filter_reported_dependencyCycle (c : Config) :
    c.reported.filter (·.kind = "DependencyCycle") =
      (Dependencies.findCycle? (byName c.validation.validators)).toList.map .dependencyCycle := by
  have hl : ("DependencyCycle", (Dependencies.findCycle?
      (byName c.validation.validators)).toList.map ConfigProblem.dependencyCycle) ∈ c.byKind := by
    simp [byKind]
  have hperm := perm_filter_reported hl
  generalize Dependencies.findCycle? (byName c.validation.validators) = found at hperm ⊢
  cases found with
  | none => exact List.perm_nil.1 hperm
  | some name => exact List.perm_singleton.1 hperm

theorem dependencyCycle_mem_reported_iff :
    .dependencyCycle name ∈ c.reported ↔
      Dependencies.findCycle? (byName c.validation.validators) = some name := by
  have hkind : .dependencyCycle name ∈ c.reported ↔
      .dependencyCycle name ∈ c.reported.filter (·.kind = "DependencyCycle") := by
    simp [List.mem_filter, ConfigProblem.kind]
  rw [hkind, filter_reported_dependencyCycle]
  simp

/-- A cycle is reported exactly if the validators that have a name require each other in a circle,
    and then at one that lies on such a circle. In whatever order the validators stand, the same
    problems are reported, and in whatever order their names come out of the map, the search for a
    cycle ends with the one that is reported, with at most one visit more open at once than there
    are validators. -/
theorem cycle_reported (c : Config)
    (hdistinct : ((named c.validation.validators).map (·.name)).Nodup) :
    ((∃ name, .dependencyCycle name ∈ c.reported) ↔
        ∃ name, TransGen c.RequiresNamed name name) ∧
      (∀ name, .dependencyCycle name ∈ c.reported → TransGen c.RequiresNamed name name) ∧
      ∀ ws, ws.Perm c.validation.validators →
        (c.withValidators ws).reported.Perm c.reported ∧
          ∀ names, names.Perm (byName ws).keys → ∃ found,
            Dependencies.search (byName ws) (ws.length + 1) names = some found ∧
              c.reported.filter (·.kind = "DependencyCycle") =
                found.toList.map .dependencyCycle := by
  have hgenuine name (h : .dependencyCycle name ∈ c.reported) :
      TransGen c.RequiresNamed name name :=
    (transGen_needs_iff hdistinct).1
      (Dependencies.transGen_of_findCycle?_eq_some (dependencyCycle_mem_reported_iff.1 h))
  refine ⟨⟨fun ⟨name, h⟩ => ⟨name, hgenuine name h⟩, ?_⟩, hgenuine, fun ws hws => ?_⟩
  · rintro ⟨name, hcycle⟩
    have hfound : Dependencies.findCycle? (byName c.validation.validators) ≠ none := fun h =>
      Dependencies.findCycle?_eq_none_iff.1 h name ((transGen_needs_iff hdistinct).2 hcycle)
    obtain ⟨found, hfound⟩ := Option.ne_none_iff_exists'.1 hfound
    exact ⟨found, dependencyCycle_mem_reported_iff.2 hfound⟩
  · refine ⟨reported_perm hdistinct hws, fun names hnames => ?_⟩
    refine ⟨_, Dependencies.search_eq hnames (length_keys_byName_le ws), ?_⟩
    rw [filter_reported_dependencyCycle, byName_of_perm hdistinct hws]

/-- Two validators that require each other, one that requires the first of them, one that requires
    what is nobody's name, and two without a name. -/
def circle : Config :=
  ⟨⟨60, [⟨"lint", true, .mustSucceed, none, ["scan"]⟩, ⟨"", true, .mustSucceed, none, [""]⟩,
    ⟨"scan", true, .mustSucceed, none, ["unpack"]⟩,
    ⟨"unpack", true, .allowedToFail, none, ["scam", "scan"]⟩,
    ⟨"", true, .mustSucceed, none, ["scan"]⟩, ⟨"report", true, .mustSucceed, none, ["scam"]⟩]⟩, ⟨5⟩⟩

/-- One of the two that require each other is told of, also with everything the other way round, and
    not the one before them that requires them. -/
theorem cycle_reported_circle :
    let vs := circle.validation.validators
    (∃ name, .dependencyCycle name ∈ circle.reported) ∧
      .dependencyCycle "lint" ∉ circle.reported ∧
      (circle.withValidators vs.reverse).reported.Perm circle.reported ∧
      ∃ found, Dependencies.search (byName vs.reverse) 7 (byName vs.reverse).keys.reverse =
          some found ∧
        circle.reported.filter (·.kind = "DependencyCycle") =
          found.toList.map .dependencyCycle := by
  intro vs
  obtain ⟨hcycle, hgenuine, horder⟩ := cycle_reported circle (by decide)
  have hscan : circle.RequiresNamed "scan" "unpack" :=
    ⟨⟨"scan", true, .mustSucceed, none, ["unpack"]⟩, by decide, rfl, by decide, by decide⟩
  have hunpack : circle.RequiresNamed "unpack" "scan" :=
    ⟨⟨"unpack", true, .allowedToFail, none, ["scam", "scan"]⟩, by decide, rfl, by decide,
      by decide⟩
  have hnobody : ∀ v ∈ named vs, "lint" ∉ v.requiredValidations := by decide
  obtain ⟨hsame, hsearch⟩ := horder vs.reverse (List.reverse_perm vs)
  refine ⟨hcycle.2 ⟨"scan", .tail (.single hscan) hunpack⟩, fun h => ?_, hsame,
    hsearch _ (List.reverse_perm _)⟩
  obtain ⟨b, -, v, hv, -, hmem, -⟩ := TransGen.tail'_iff.1 (hgenuine "lint" h)
  exact hnobody v hv hmem

end Config

end Admission
