import Admission.Json.Value
import Admission.Text.Digits
import Admission.Text.Utf8

/-!
Reading a JSON document from its text. The grammar is the standard's, nothing more: no comments, no
trailing commas, no byte order mark; bytes that are no character may stand in string literals only.
The bound on the recursion is the length of the text, which no document can use up.
-/

namespace Admission.Json

open Text

/-- Passes over the white space of JSON. -/
def skipSpace (cs : List Symbol) : List Symbol :=
  cs.dropWhile fun c => c == some ' ' || c == some '\n' || c == some '\t' || c == some '\r'

/-- A piece of a string literal: a character as it is or escaped, a number in the surrogate range,
    or a byte that is no character. -/
inductive Piece where
  | plain (c : Char)
  | escaped (c : Char)
  | surrogate (n : Nat)
  | byte

/-- The piece that four hexadecimal digits stand for. -/
def piece? (a b c d : Char) : Option Piece := do
  let n ← hexValue? [a, b, c, d]
  return if 0xD800 ≤ n ∧ n ≤ 0xDFFF then .surrogate n else .escaped (Char.ofNat n)

/-- The character that a backslash and one more character stand for. -/
def shortEscape? (c : Char) : Option Char :=
  if c == '"' || c == '\\' || c == '/' then some c
  else if c == 'b' then some '\x08'
  else if c == 'f' then some '\x0c'
  else if c == 'n' then some '\n'
  else if c == 'r' then some '\r'
  else if c == 't' then some '\t'
  else none

/-- The pieces up to the closing quote of a string literal, and the text after it. -/
def pieces? : List Symbol → Option (List Piece × List Symbol)
  | some '"' :: rest => some ([], rest)
  | some '\\' :: some 'u' :: some a :: some b :: some c :: some d :: rest => do
    let p ← piece? a b c d
    let (ps, rest) ← pieces? rest
    return (p :: ps, rest)
  | some '\\' :: some e :: rest => do
    let c ← shortEscape? e
    let (ps, rest) ← pieces? rest
    return (.escaped c :: ps, rest)
  | some c :: rest =>
    if c == '\\' || c.toNat < 0x20 then none
    else do
      let (ps, rest) ← pieces? rest
      return (.plain c :: ps, rest)
  | none :: rest => do
    let (ps, rest) ← pieces? rest
    return (.byte :: ps, rest)
  | [] => none

/-- Puts the halves of surrogate pairs together. There is no text if a half stands alone, or with a
    byte that is no character. -/
def join? : List Piece → Option (List Char)
  | [] => some []
  | .plain c :: rest => (join? rest).map (c :: ·)
  | .escaped c :: rest => (join? rest).map (c :: ·)
  | .surrogate high :: .surrogate low :: rest =>
    if high < 0xDC00 ∧ 0xDC00 ≤ low then
      (join? rest).map (Char.ofNat (0x10000 + (high - 0xD800) * 1024 + (low - 0xDC00)) :: ·)
    else none
  | .surrogate _ :: _ => none
  | .byte :: _ => none

/-- Whether the pieces are written without escapes. -/
def isPlain (ps : List Piece) : Bool :=
  ps.all fun
    | .plain _ => true
    | _ => false

/-- A string literal after its opening quote, and what follows: its text if it has one, and whether
    it is written plainly. -/
def literal? (cs : List Symbol) : Option (Option MemberName × List Symbol) := do
  let (ps, rest) ← pieces? cs
  return ((join? ps).map fun text => ⟨String.ofList text, isPlain ps⟩, rest)

def isDigit (c : Symbol) : Bool := c.any Char.isDigit

/-- The digits at the front, at least one. -/
def digits? (cs : List Symbol) : Option (List Char × List Symbol) :=
  let ds := (cs.takeWhile isDigit).filterMap id
  if ds.isEmpty then none else some (ds, cs.dropWhile isDigit)

/-- A point and digits, or nothing. -/
def fraction? (cs : List Symbol) : Option (List Char × List Symbol) :=
  match cs with
  | some '.' :: rest => do
    let (ds, rest) ← digits? rest
    return ('.' :: ds, rest)
  | _ => some ([], cs)

/-- A sign, or nothing. -/
def sign (cs : List Symbol) : List Char × List Symbol :=
  match cs with
  | some '+' :: rest => (['+'], rest)
  | some '-' :: rest => (['-'], rest)
  | _ => ([], cs)

/-- An exponent mark, a sign and digits, or nothing. -/
def exponent? (cs : List Symbol) : Option (List Char × List Symbol) :=
  match cs with
  | some c :: rest =>
    if c == 'e' || c == 'E' then do
      let (s, rest) := sign rest
      let (ds, rest) ← digits? rest
      return (c :: s ++ ds, rest)
    else some ([], cs)
  | _ => some ([], cs)

/-- A number without its sign. -/
def unsigned? (negative : Bool) (cs : List Symbol) : Option (Json × List Symbol) := do
  let (whole, rest) ← digits? cs
  if whole.length > 1 ∧ whole.head? = some '0' then none
  let (frac, rest) ← fraction? rest
  let (exp, rest) ← exponent? rest
  let sign := if negative then ['-'] else []
  if frac.isEmpty ∧ exp.isEmpty ∧ ¬(negative ∧ whole = ['0']) then
    let n : Int := decimalValue whole
    return (.int (if negative then -n else n), rest)
  return (.decimal (String.ofList (sign ++ whole ++ frac ++ exp)), rest)

/-- A word of the grammar. -/
def word? (word : String) (j : Json) (cs : List Symbol) : Option (Json × List Symbol) :=
  if (word.toList.map some).isPrefixOf cs then some (j, cs.drop word.length) else none

/-- An object of members whose names may lack a text, in which case nothing can read it. -/
def ofMembers (members : List (Option MemberName × Json)) : Json :=
  match members.mapM fun m => m.1.map (·, m.2) with
  | some ms => .obj ms
  | none => .unreadable

mutual

/-- A value, after white space. -/
def value? : Nat → List Symbol → Option (Json × List Symbol)
  | 0, _ => none
  | fuel + 1, cs =>
    match skipSpace cs with
    | some '"' :: rest => do
      let (text, rest) ← literal? rest
      return (text.elim .unreadable (.str ·.text), rest)
    | some '[' :: rest =>
      match skipSpace rest with
      | some ']' :: rest => some (.arr [], rest)
      | _ => (items? fuel rest).map fun r => (.arr r.1, r.2)
    | some '\x7b' :: rest =>
      match skipSpace rest with
      | some '\x7d' :: rest => some (.obj [], rest)
      | _ => (members? fuel rest).map fun r => (ofMembers r.1, r.2)
    | some '-' :: rest => unsigned? true rest
    | some 't' :: rest => word? "rue" (.bool true) rest
    | some 'f' :: rest => word? "alse" (.bool false) rest
    | some 'n' :: rest => word? "ull" .null rest
    | rest => unsigned? false rest

/-- The items of an array up to its closing bracket. -/
def items? : Nat → List Symbol → Option (List Json × List Symbol)
  | 0, _ => none
  | fuel + 1, cs => do
    let (j, rest) ← value? fuel cs
    match skipSpace rest with
    | some ',' :: rest => (items? fuel rest).map fun r => (j :: r.1, r.2)
    | some ']' :: rest => some ([j], rest)
    | _ => none

/-- The members of an object up to its closing brace. -/
def members? : Nat → List Symbol → Option (List (Option MemberName × Json) × List Symbol)
  | 0, _ => none
  | fuel + 1, cs =>
    match skipSpace cs with
    | some '"' :: rest => do
      let (name, rest) ← literal? rest
      match skipSpace rest with
      | some ':' :: rest => do
        let (j, rest) ← value? fuel rest
        match skipSpace rest with
        | some ',' :: rest => (members? fuel rest).map fun r => ((name, j) :: r.1, r.2)
        | some '\x7d' :: rest => some ([(name, j)], rest)
        | _ => none
      | _ => none
    | _ => none

end

/-- Reads a document with nothing but white space around it. -/
def parseSymbols? (cs : List Symbol) : Option Json :=
  match value? (cs.length + 1) cs with
  | some (j, rest) => if (skipSpace rest).isEmpty then some j else none
  | none => none

/-- Reads a document from a text. -/
def parse? (s : String) : Option Json := parseSymbols? (s.toList.map some)

/-- Reads a document from the content of a file. -/
def parseContent? (content : ByteArray) : Option Json := parseSymbols? (symbols content)

end Admission.Json
