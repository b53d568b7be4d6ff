import Admission.Text.Digits

/-!
Scanners: functions that read a value off the front of a text and answer it with the rest, or
refuse. They are combined with the operations of a state over options, so that an alternative
starts again where the refused one started.
-/

namespace Admission.Text

/-- Reads a value off the front of a text, or refuses. -/
abbrev Scanner (α : Type) := StateT (List Char) Option α

namespace Scanner

variable {α β : Type}

/-- The character at the front, which stays. -/
def peek? : Scanner (Option Char) := fun cs => some (cs.head?, cs)

/-- A character that passes the test. -/
def satisfy (p : Char → Bool) : Scanner Char
  | c :: rest => if p c then some (c, rest) else none
  | [] => none

/-- Exactly this character. -/
def char (c : Char) : Scanner Unit := fun cs => (satisfy (· == c) cs).map fun r => ((), r.2)

/-- Exactly this text. -/
def literal (s : String) : Scanner Unit := fun cs =>
  if s.toList.isPrefixOf cs then some ((), cs.drop s.length) else none

/-- The longest run of characters that pass the test. -/
def spanWhile (p : Char → Bool) : Scanner (List Char) := fun cs =>
  some (cs.takeWhile p, cs.dropWhile p)

/-- A run of characters that pass the test, of at least 'least' and at most 'most' of them. -/
def run (p : Char → Bool) (least most : Nat) : Scanner (List Char) := fun cs =>
  let front := (cs.take most).takeWhile p
  if front.length < least then none else some (front, cs.drop front.length)

/-- A number of at least 'least' and at most 'most' decimal digits. -/
def number (least most : Nat) : Scanner Nat := fun cs =>
  (run Char.isDigit least most cs).map fun r => (decimalValue r.1, r.2)

/-- Succeeds at the end of the text only. -/
def atEnd : Scanner Unit
  | [] => some ((), [])
  | _ :: _ => none

/-- As many values as can be read one after another, at most 'most'. -/
def manyUpTo (most : Nat) (p : Scanner α) : Scanner (List α) := fun cs =>
  match most with
  | 0 => some ([], cs)
  | k + 1 =>
    match p cs with
    | none => some ([], cs)
    | some (a, rest) => (manyUpTo k p rest).map fun r => (a :: r.1, r.2)

/-- As many values as can be read one after another, each of at least one character. -/
def many (p : Scanner α) : Scanner (List α) := fun cs => manyUpTo cs.length p cs

/-- Values with separators between them, at least one. -/
def sepBy1 (p : Scanner α) (sep : Scanner β) : Scanner (List α) := do
  let first ← p
  let others ← many (do let _ ← sep; p)
  return first :: others

/-- A value if one can be read. -/
def optional (p : Scanner α) : Scanner (Option α) := fun cs =>
  match p cs with
  | some (a, rest) => some (some a, rest)
  | none => some (none, cs)

/-- Reads a whole text. -/
def readAll? (p : Scanner α) (text : List Char) : Option α :=
  match p text with
  | some (a, []) => some a
  | _ => none

end Scanner

end Admission.Text
