import Admission.Files.Error

/-!
Paths as they are written: steps with slashes between them. Slashes in a row count as one, and a
slash at the end asks for a directory.
-/

namespace Admission

/-- A step on a path. -/
inductive PathStep where
  | here
  | up
  | name (n : String)
deriving DecidableEq, Repr

/-- A path: from the root of the machine or from the working directory, with or without a slash at
    its end. -/
structure Path where
  rooted : Bool
  steps : List PathStep
  slashed : Bool
deriving DecidableEq, Repr

namespace Path

/-- The longest path, in bytes. -/
def maxBytes : Nat := 4095

/-- The longest name on a path, in bytes. -/
def maxNameBytes : Nat := 255

/-- The pieces between slashes, empty ones included; there is always one. -/
def pieces : List Char → List (List Char)
  | [] => [[]]
  | c :: rest =>
    if c == '/' then [] :: pieces rest
    else match pieces rest with
      | [] => [[c]]
      | piece :: others => (c :: piece) :: others

/-- The step that a piece stands for; an empty piece is none. -/
def step? (piece : List Char) : Option PathStep :=
  if piece.isEmpty then none
  else if piece == ['.'] then some .here
  else if piece == ['.', '.'] then some .up
  else some (.name (String.ofList piece))

/-- The steps of a written path. -/
def stepsOf (text : List Char) : List PathStep := (pieces text).filterMap step?

/-- Reads a path. The empty path leads nowhere. -/
def ofText (text : String) : Except FileError Path :=
  if text.toList.contains '\x00' then .error .nulInName
  else if maxBytes < text.utf8ByteSize then .error .nameTooLong
  else match text.toList with
    | [] => .error .missing
    | cs => .ok ⟨cs.head? == some '/', stepsOf cs, cs.getLast? == some '/'⟩

/-- The path of something in a directory. A path from the root stands by itself. -/
def join (directory name : String) : String :=
  if directory.isEmpty || name.toList.head? == some '/' then name
  else if directory.toList.getLast? == some '/' then directory ++ name
  else directory ++ "/" ++ name

/-- Steps without those at the end that stay where they are; one that is all there is stays. -/
def trimSteps (steps : List PathStep) : List PathStep :=
  match (steps.reverse.dropWhile (· == .here)).reverse with
  | [] => steps.take 1
  | trimmed => trimmed

/-- The steps to what a path lies in: all but the last, those that stay where they are aside. -/
def parentSteps (steps : List PathStep) : List PathStep := trimSteps (trimSteps steps).dropLast

theorem trimSteps_length (steps : List PathStep) : (trimSteps steps).length ≤ steps.length := by
  unfold trimSteps
  have h := (List.dropWhile_sublist (l := steps.reverse) (· == .here)).length_le
  split
  · exact (List.take_sublist 1 steps).length_le
  · simpa using h

theorem parentSteps_length {steps : List PathStep} (h : steps ≠ []) :
    (parentSteps steps).length < steps.length := by
  have h₁ := trimSteps_length steps
  have h₂ := trimSteps_length (trimSteps steps).dropLast
  have h₃ := List.length_pos_iff.2 h
  rw [List.length_dropLast] at h₂
  unfold parentSteps
  omega

/-- The name that a path ends in, unless it ends in a step up or has no steps. -/
def lastName? (text : String) : Option (List Char) :=
  match ((stepsOf text.toList).filter (· != .here)).getLast? with
  | some (.name n) => some n.toList
  | _ => none

/-- What follows the last point of the name that a path ends in. A point at the front of the name
    does not count. -/
def extension? (text : String) : Option String := do
  let reversed := (← lastName? text).reverse
  match reversed.dropWhile (· != '.') with
  | [] => none
  | [_] => none
  | _ :: _ => return String.ofList (reversed.takeWhile (· != '.')).reverse

end Path

end Admission
