import Mathlib.Logic.Relation
import Admission.Config.Dependencies

/-!
The search for a cycle among prerequisites finds one exactly if there is one. What the search is
through with is settled: it holds all that its names need, and none of them is on a cycle. Each name
on the path leads to the one that is visited, so a name that is met again closes a cycle
(`searched`).
-/

namespace Admission.Dependencies

open Relation (TransGen ReflTransGen)

variable {byName : ByName} {path done names : List String} {a b name : String}

/-- One validator needs another to be finished first. -/
def Needs (byName : ByName) (a b : String) : Prop :=
  ∃ v, byName.find? a = some v ∧ b ∈ v.requiredValidations

/-- The names need no others than each other, and none is on a cycle. -/
structure Settled (byName : ByName) (done : List String) : Prop where
  closed : ∀ a ∈ done, ∀ b, Needs byName a b → b ∈ done
  acyclic : ∀ a ∈ done, ¬TransGen (Needs byName) a a

/-- Every name on the path needs the given one, directly or by others. -/
def LeadsTo (byName : ByName) (path : List String) (name : String) : Prop :=
  ∀ a ∈ path, TransGen (Needs byName) a name

/-- What a search from some names can answer: a name on a cycle, or none and what is settled then,
    with these names and what was settled before. -/
inductive Searched (byName : ByName) (done names : List String) :
    Option String × List String → Prop
  | cyclic {name : String} {done' : List String} (h : TransGen (Needs byName) name name) :
      Searched byName done names (some name, done')
  | settled {done' : List String} (h : Settled byName done') (hdone : done ⊆ done')
      (hnames : names ⊆ done') : Searched byName done names (none, done')

theorem settled_nil : Settled byName [] := ⟨nofun, nofun⟩

/-- What a settled name leads to is settled. -/
theorem Settled.mem_of_reflTransGen (h : Settled byName done)
    (hab : ReflTransGen (Needs byName) a b) (ha : a ∈ done) : b ∈ done := by
  induction hab with
  | refl => exact ha
  | tail _ hstep ih => exact h.closed _ ih _ hstep

/-- A name of which all needs are settled is settled too. -/
theorem Settled.cons (h : Settled byName done) (hname : ∀ b, Needs byName name b → b ∈ done) :
    Settled byName (name :: done) := by
  constructor
  · intro a ha b hab
    rcases List.mem_cons.1 ha with rfl | ha
    · exact List.mem_cons_of_mem _ (hname b hab)
    · exact List.mem_cons_of_mem _ (h.closed a ha b hab)
  · intro a ha hcycle
    -- A cycle goes on over settled names, so its start is one of them.
    obtain ⟨b, hab, hba⟩ := TransGen.head'_iff.1 hcycle
    rcases List.mem_cons.1 ha with rfl | ha
    · exact h.acyclic a (h.mem_of_reflTransGen hba (hname b hab)) hcycle
    · exact h.acyclic a ha hcycle

theorem LeadsTo.cons (h : LeadsTo byName path name) (hb : Needs byName name b) :
    LeadsTo byName (name :: path) b := by
  intro a ha
  rcases List.mem_cons.1 ha with rfl | ha
  · exact .single hb
  · exact (h a ha).tail hb

theorem needs_iff {v : ValidatorConfig} (hv : byName.find? a = some v) :
    Needs byName a b ↔ b ∈ v.requiredValidations := by
  simp [Needs, hv]

/-- Nothing is on the path at first. -/
theorem leadsTo_nil : LeadsTo byName [] name := nofun

/-- A name that is not configured needs no others. -/
theorem not_needs (ha : byName.find? a = none) : ¬Needs byName a b := by
  simp [Needs, ha]

/-- A name met for the first time is searched by way of what it needs. -/
theorem visit_of_find? {v : ValidatorConfig} (hnew : ¬done.contains name = true)
    (hoff : ¬path.contains name = true) (hfind : byName.find? name = some v) :
    visit byName path done name =
      match visitAll byName (name :: path) done v.requiredValidations with
      | (some cycle, done) => (some cycle, done)
      | (none, done) => (none, name :: done) := by
  rw [visit, if_neg hnew, dif_neg hoff]
  split
  · rename_i hnone
    rw [hnone] at hfind
    cases hfind
  · rename_i w hw
    obtain rfl : w = v := Option.some.inj (hw.symm.trans hfind)
    rfl

/-- A search that starts from what is settled, on a path that leads to its names, finds a cycle or
    settles them. -/
theorem searched (byName : ByName) :
    (∀ path done name, Settled byName done → LeadsTo byName path name →
      Searched byName done [name] (visit byName path done name)) ∧
    ∀ path done names, Settled byName done → (∀ name ∈ names, LeadsTo byName path name) →
      Searched byName done names (visitAll byName path done names) := by
  apply visit.mutual_induct byName
    (fun path done name => Settled byName done → LeadsTo byName path name →
      Searched byName done [name] (visit byName path done name))
    (fun path done names => Settled byName done → (∀ name ∈ names, LeadsTo byName path name) →
      Searched byName done names (visitAll byName path done names))
  case case1 =>
    intro path done name hmem hdone _
    rw [visit, if_pos hmem]
    refine .settled hdone (List.Subset.refl _) ?_
    simpa using hmem
  case case2 =>
    intro path done name hnew hmem _ hpath
    rw [visit, if_neg hnew, dif_pos hmem]
    exact .cyclic (hpath name (List.contains_iff_mem.1 hmem))
  case case3 =>
    intro path done name hnew hoff hfind hdone _
    rw [visit, if_neg hnew, dif_neg hoff]
    split
    · refine .settled (hdone.cons fun b hb => absurd hb (not_needs hfind)) ?_ ?_
      · exact List.subset_cons_self _ _
      · simp
    · simp_all
  case case4 =>
    intro path done name hnew hoff v hfind cycle done' hall ih hdone hpath
    have hfound := ih hdone fun b hb => hpath.cons ((needs_iff hfind).2 hb)
    rw [hall] at hfound
    rw [visit_of_find? hnew hoff hfind, hall]
    cases hfound with
    | cyclic h => exact .cyclic h
  case case5 =>
    intro path done name hnew hoff v hfind done' hall ih hdone hpath
    have hfound := ih hdone fun b hb => hpath.cons ((needs_iff hfind).2 hb)
    rw [hall] at hfound
    rw [visit_of_find? hnew hoff hfind, hall]
    cases hfound with
    | settled h hmono hneeds =>
      have hset := h.cons fun b hb => hneeds ((needs_iff hfind).1 hb)
      exact .settled hset (List.subset_cons_of_subset _ hmono) (by simp)
  case case6 =>
    intro path done hdone _
    rw [visitAll]
    exact .settled hdone (List.Subset.refl _) (List.nil_subset _)
  case case7 =>
    intro path done name rest cycle done' hvisit ih hdone hpath
    have hfound := ih hdone (hpath name List.mem_cons_self)
    rw [hvisit] at hfound
    rw [visitAll, hvisit]
    cases hfound with
    | cyclic h => exact .cyclic h
  case case8 =>
    intro path done name rest done' hvisit ih ihrest hdone hpath
    have hfound := ih hdone (hpath name List.mem_cons_self)
    rw [hvisit] at hfound
    rw [visitAll, hvisit]
    cases hfound with
    | settled h hmono hname =>
      have hrest := ihrest h fun b hb => hpath b (List.mem_cons_of_mem name hb)
      dsimp only
      generalize visitAll byName path done' rest = x at hrest ⊢
      cases hrest with
      | cyclic h => exact .cyclic h
      | settled h' hmono' hrest =>
        refine .settled h' (List.Subset.trans hmono hmono') ?_
        exact List.cons_subset.2 ⟨hmono' (hname (by simp)), hrest⟩

theorem searched_keys (byName : ByName) :
    Searched byName [] byName.keys (visitAll byName [] [] byName.keys) :=
  (searched byName).2 [] [] byName.keys settled_nil fun _ _ => leadsTo_nil

/-- Where no cycle is found, no name is on one. -/
theorem not_transGen_of_findCycle?_eq_none (h : findCycle? byName = none) (name : String) :
    ¬TransGen (Needs byName) name name := by
  intro hcycle
  have hfound := searched_keys byName
  rw [findCycle?] at h
  generalize visitAll byName [] [] byName.keys = x at h hfound
  cases hfound with
  | cyclic => cases h
  | settled hset _ hkeys =>
    -- A name on a cycle needs something, so it is configured and has been searched.
    obtain ⟨b, ⟨v, hv, -⟩, -⟩ := TransGen.head'_iff.1 hcycle
    have hkey : name ∈ byName.keys := by
      simpa [SortedMap.keys] using ⟨v, SortedMap.find?_eq_some_iff.1 hv⟩
    exact hset.acyclic name (hkeys hkey) hcycle

/-- A name that is found is on a cycle. -/
theorem transGen_of_findCycle?_eq_some (h : findCycle? byName = some name) :
    TransGen (Needs byName) name name := by
  have hfound := searched_keys byName
  rw [findCycle?] at h
  generalize visitAll byName [] [] byName.keys = x at h hfound
  cases hfound with
  | cyclic hcycle =>
    obtain rfl := Option.some.inj h
    exact hcycle
  | settled => cases h

/-- No cycle is found exactly if there is none. -/
theorem findCycle?_eq_none_iff :
    findCycle? byName = none ↔ ∀ name, ¬TransGen (Needs byName) name name := by
  constructor
  · exact not_transGen_of_findCycle?_eq_none
  · intro h
    rw [Option.eq_none_iff_forall_ne_some]
    intro name hname
    exact h name (transGen_of_findCycle?_eq_some hname)

end Admission.Dependencies
