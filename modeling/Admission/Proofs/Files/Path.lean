import Mathlib.Data.List.Basic
import Admission.Files.Path

/-!
The name that a written path ends in (`lastName?`). It depends on nothing but what follows the last
slash, so a path into a directory ends in the name that was put there (`lastName?_join`), whatever
the directory is. A text of three characters or more that has no slash is a name.
-/

namespace Admission.Path

theorem pieces_ne_nil (cs : List Char) : pieces cs ≠ [] := by
  cases cs with
  | nil => exact List.cons_ne_nil _ _
  | cons c cs =>
    rw [pieces]
    split
    · exact List.cons_ne_nil _ _
    · split <;> exact List.cons_ne_nil _ _

theorem pieces_slash (cs : List Char) : pieces ('/' :: cs) = [] :: pieces cs := rfl

theorem pieces_cons {c : Char} {cs piece : List Char} {rest : List (List Char)} (hc : c ≠ '/')
    (h : pieces cs = piece :: rest) : pieces (c :: cs) = (c :: piece) :: rest := by
  have hslash : ¬(c == '/') = true := fun he => hc (eq_of_beq he)
  rw [pieces, if_neg hslash, h]

/-- The pieces on either side of a slash. -/
theorem pieces_append_slash (cs ds : List Char) :
    pieces (cs ++ '/' :: ds) = pieces cs ++ pieces ds := by
  induction cs with
  | nil => rfl
  | cons c cs ih =>
    by_cases hc : c = '/'
    · rw [hc, List.cons_append, pieces_slash, pieces_slash, ih, List.cons_append]
    · obtain ⟨piece, rest, h⟩ := List.exists_cons_of_ne_nil (pieces_ne_nil cs)
      rw [h, List.cons_append] at ih
      rw [List.cons_append, pieces_cons hc ih, pieces_cons hc h, List.cons_append]

theorem pieces_of_not_mem {cs : List Char} (h : '/' ∉ cs) : pieces cs = [cs] := by
  induction cs with
  | nil => rfl
  | cons c cs ih =>
    have hc : c ≠ '/' := fun he => h (he ▸ List.mem_cons_self)
    exact pieces_cons hc (ih fun hcs => h (List.mem_cons_of_mem _ hcs))

theorem stepsOf_append_slash (cs ds : List Char) :
    stepsOf (cs ++ '/' :: ds) = stepsOf cs ++ stepsOf ds := by
  rw [stepsOf, pieces_append_slash, List.filterMap_append, stepsOf, stepsOf]

/-- A path into a directory ends in the steps of what is in there. -/
theorem stepsOf_join (directory name : String) :
    ∃ front, stepsOf (join directory name).toList = front ++ stepsOf name.toList := by
  rw [join]
  split
  · exact ⟨[], rfl⟩
  · split
    · rename_i hlast
      obtain ⟨cs, hcs⟩ := List.getLast?_eq_some_iff.1 (eq_of_beq hlast)
      refine ⟨stepsOf cs, ?_⟩
      rw [String.toList_append, hcs, List.append_assoc, List.singleton_append,
        stepsOf_append_slash]
    · refine ⟨stepsOf directory.toList, ?_⟩
      rw [String.toList_append, String.toList_append, List.append_assoc]
      exact stepsOf_append_slash _ _

theorem lastName?_eq_some_iff {text : String} {n : List Char} :
    lastName? text = some n ↔
      ((stepsOf text.toList).filter (· != .here)).getLast? = some (.name (String.ofList n)) := by
  rw [lastName?]
  split
  · rename_i m hm
    simp only [hm, Option.some.injEq, PathStep.name.injEq]
    exact ⟨fun h => by rw [← h, String.ofList_toList], fun h => by rw [h, String.toList_ofList]⟩
  · rename_i hname
    exact ⟨nofun, fun h => absurd h (hname _)⟩

/-- A path into a directory ends in the name of what is in there. -/
theorem lastName?_join {name : String} {n : List Char} (h : lastName? name = some n)
    (directory : String) : lastName? (join directory name) = some n := by
  obtain ⟨front, hfront⟩ := stepsOf_join directory name
  rw [lastName?_eq_some_iff] at h ⊢
  rw [hfront, List.filter_append, List.getLast?_append, h, Option.some_or]

/-- So does one whose last step is a name. -/
theorem lastName?_of_steps {text : String} {steps : List PathStep} {n : String}
    (h : stepsOf text.toList = steps ++ [.name n]) : lastName? text = some n.toList := by
  rw [lastName?_eq_some_iff, h, List.filter_append, List.getLast?_append]
  simp

theorem stepsOf_of_not_mem {cs : List Char} (h : '/' ∉ cs) (hlong : 2 < cs.length) :
    stepsOf cs = [.name (String.ofList cs)] := by
  have hstep : step? cs = some (.name (String.ofList cs)) := by
    rw [step?, if_neg, if_neg, if_neg]
    all_goals
      intro he
      simp only [List.isEmpty_iff, beq_iff_eq] at he
      simp [he] at hlong
  rw [stepsOf, pieces_of_not_mem h, List.filterMap_cons_some hstep, List.filterMap_nil]

theorem lastName?_of_not_mem {text : String} (h : '/' ∉ text.toList)
    (hlong : 2 < text.toList.length) : lastName? text = some text.toList := by
  have hsteps : stepsOf text.toList = [] ++ [.name (String.ofList text.toList)] :=
    stepsOf_of_not_mem h hlong
  rw [String.ofList_toList] at hsteps
  exact lastName?_of_steps hsteps

/-- A text ends in a name if it has an ending that is part of one. -/
theorem exists_lastName? {text : String} {cs ending : List Char} (h : text.toList = cs ++ ending)
    (hslash : '/' ∉ ending) (hlong : 2 < ending.length) : ∃ n, lastName? text = some n := by
  by_cases hcs : '/' ∈ cs
  · obtain ⟨as, bs, hbs, has⟩ := List.eq_append_cons_of_mem (List.mem_reverse.2 hcs)
    have hsplit : text.toList = bs.reverse ++ '/' :: (as.reverse ++ ending) := by
      rw [h, List.reverse_eq_iff.1 hbs]
      simp
    have hname : '/' ∉ as.reverse ++ ending := by
      simp [has, hslash]
    have hsteps : stepsOf text.toList = stepsOf bs.reverse ++
        [.name (String.ofList (as.reverse ++ ending))] := by
      rw [hsplit, stepsOf_append_slash, stepsOf_of_not_mem hname (by
        rw [List.length_append]
        omega)]
    exact ⟨_, lastName?_of_steps hsteps⟩
  · refine ⟨_, lastName?_of_not_mem ?_ ?_⟩
    · rw [h]
      simp [hcs, hslash]
    · rw [h, List.length_append]
      omega

end Admission.Path
