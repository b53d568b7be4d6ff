import Admission.Text.CaseTable

/-!
Full lower-casing of a text: every character goes to its lower-case partner, the dotted capital I
to two characters, and a capital sigma to its final form at the end of a word.
-/

namespace Admission.Text

/-- The lower case of a character by itself. -/
def lowerChar (c : Char) : List Char :=
  let n := c.toNat
  if n < 0x80 then [c.toLower]
  else if n == 0x130 then ['i', '\u0307']
  else
    match lowerRuns.find? fun r => r.first ≤ n && n ≤ r.last && (n - r.first) % r.step == 0 with
    | some r => [Char.ofNat (Int.toNat (n + r.shift))]
    | none => [c]

/-- Whether the first character that is not passed over has case. -/
def startsCased (cs : List Char) : Bool :=
  match cs.dropWhile fun c => inRanges caseIgnorableRanges c.toNat with
  | c :: _ => inRanges casedRanges c.toNat
  | [] => false

/-- Lower-cases the text 'cs' that follows the characters 'before', the nearest one first. -/
def lowerFrom (before : List Char) : List Char → List Char
  | [] => []
  | c :: rest =>
    let here :=
      if c == 'Σ' then
        if startsCased before && !startsCased rest then ['ς'] else ['σ']
      else lowerChar c
    here ++ lowerFrom (c :: before) rest

/-- The text in lower case. -/
def lower (s : String) : String := String.ofList (lowerFrom [] s.toList)

end Admission.Text
