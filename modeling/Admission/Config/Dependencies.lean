import Admission.Config.Basic
import Admission.SortedMap

/-!
The search for a cycle among the prerequisites of validators. It goes depth first from each name in
order, and answers the name at which the path that it is on comes back to itself. It ends because
the path holds every configured name at most once.
-/

namespace Admission.Dependencies

/-- The configured validators by name. -/
abbrev ByName := SortedMap String ValidatorConfig

/-- How many configured names are not on the path. -/
def remaining (byName : ByName) (path : List String) : Nat :=
  (byName.keys.filter fun name => !path.contains name).length

theorem remaining_cons_lt {byName : ByName} {path : List String} {name : String}
    (hname : name ∈ byName.keys) (hpath : path.contains name = false) :
    remaining byName (name :: path) < remaining byName path := by
  have hsplit : (byName.keys.filter fun n => !(name :: path).contains n) =
      (byName.keys.filter fun n => !path.contains n).filter (· ≠ name) := by
    rw [List.filter_filter]
    congr 1
    funext n
    simp
  unfold remaining
  rw [hsplit, List.length_filter_lt_length_iff_exists]
  exact ⟨name, by simpa [hname] using hpath, by simp⟩

mutual

/-- Looks for a cycle from a name on. Answers the name where one closes, or none with the names
    from which there is none. -/
def visit (byName : ByName) (path done : List String) (name : String) :
    Option String × List String :=
  if done.contains name then (none, done)
  else if _hpath : path.contains name then (some name, done)
  else
    match _hfind : byName.find? name with
    | none => (none, name :: done)
    | some validator =>
      match visitAll byName (name :: path) done validator.requiredValidations with
      | (some cycle, done) => (some cycle, done)
      | (none, done) => (none, name :: done)
termination_by (remaining byName path, 0)
decreasing_by
  apply Prod.Lex.left
  apply remaining_cons_lt
  · have := SortedMap.find?_eq_some_iff.1 _hfind
    simpa [SortedMap.keys] using ⟨_, this⟩
  · simpa using _hpath

/-- Looks for a cycle from each name of a list on, up to the first that closes. -/
def visitAll (byName : ByName) (path done : List String) : List String →
    Option String × List String
  | [] => (none, done)
  | name :: rest =>
    match visit byName path done name with
    | (some cycle, done) => (some cycle, done)
    | (none, done) => visitAll byName path done rest
termination_by names => (remaining byName path, names.length + 1)

end

/-- A name on a cycle of prerequisites, if there is a cycle. -/
def findCycle? (byName : ByName) : Option String := (visitAll byName [] [] byName.keys).1

end Admission.Dependencies
