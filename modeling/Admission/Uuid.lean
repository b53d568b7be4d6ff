/-!
Universally unique identifiers: thirty-two hexadecimal digits, ordered by their digits. They are
written in lower case in five hyphenated groups; plain, braced and URN forms are read as well.
-/

namespace Admission

/-- A UUID: its hexadecimal digits, the most significant first. -/
structure Uuid where
  digits : List (Fin 16)
  length_digits : digits.length = 32
deriving DecidableEq

namespace Uuid

/-- The identifier that repeats one digit. -/
def ofDigit (n : Nat) : Uuid := ⟨List.replicate 32 (.ofNat 16 n), List.length_replicate⟩

instance : Ord Uuid := ⟨fun a b => compare a.digits b.digits⟩

theorem compare_def (a b : Uuid) : compare a b = compare a.digits b.digits := rfl

instance : Std.TransOrd Uuid where
  eq_swap := by
    intro a b
    simp only [compare_def]
    exact Std.OrientedCmp.eq_swap
  isLE_trans := by
    intro a b c
    simp only [compare_def]
    exact Std.TransCmp.isLE_trans

instance : Std.LawfulEqOrd Uuid where
  compare_self := by
    intro a
    simp
  eq_of_compare := by
    intro a b h
    rw [compare_def, Std.compare_eq_iff_eq] at h
    cases a
    cases b
    simp_all

/-- The value of a hexadecimal digit in either case. -/
def hexValue? (c : Char) : Option (Fin 16) :=
  ("0123456789abcdef".toList.zip (List.finRange 16)).lookup c.toLower

/-- A hexadecimal digit in lower case. -/
def hexChar (d : Fin 16) : Char := "0123456789abcdef".toList[d.val]

theorem hexValue?_hexChar : ∀ d : Fin 16, hexValue? (hexChar d) = some d := by decide

/-- The lengths of the groups between the hyphens. -/
def groups : List Nat := [8, 4, 4, 4, 12]

/-- Cuts a text into groups of the given lengths, with a hyphen between each and the next. -/
def hyphenate : List Nat → List Char → List Char
  | [], cs => cs
  | [_], cs => cs
  | n :: ns, cs => cs.take n ++ '-' :: hyphenate ns (cs.drop n)

/-- Takes the hyphens between groups of the given lengths out again. -/
def unhyphenate? : List Nat → List Char → Option (List Char)
  | [], cs => some cs
  | [_], cs => some cs
  | n :: ns, cs =>
    match cs.drop n with
    | '-' :: rest => (unhyphenate? ns rest).map (cs.take n ++ ·)
    | _ => none

/-- The UUID of thirty-two digits. -/
def ofDigits? (cs : List Char) : Option Uuid :=
  match cs.mapM hexValue? with
  | some ds => if h : ds.length = 32 then some ⟨ds, h⟩ else none
  | none => none

/-- What a URN puts before a UUID. -/
def urnStart : List Char := "urn:uuid:".toList

/-- Reads one of the four written forms. -/
def ofText? (s : String) : Option Uuid :=
  let cs := s.toList
  if cs.length = 32 then ofDigits? cs
  else if cs.length = 36 then (unhyphenate? groups cs).bind ofDigits?
  else if cs.length = 38 ∧ cs.head? = some '\x7b' ∧ cs.getLast? = some '\x7d' then
    (unhyphenate? groups (cs.drop 1).dropLast).bind ofDigits?
  else if cs.length = 45 ∧ (cs.take 9).map Char.toLower = urnStart then
    (unhyphenate? groups (cs.drop 9)).bind ofDigits?
  else none

/-- The written form: lower case, in groups. -/
def text (u : Uuid) : String := String.ofList (hyphenate groups (u.digits.map hexChar))

instance : ToString Uuid := ⟨text⟩

end Uuid

end Admission
