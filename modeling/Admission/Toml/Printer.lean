import Admission.Text.Digits
import Admission.Toml.Value

/-!
Writing a TOML document. Tables and series of tables get headers of their own with an empty line
before each; arrays of more than one item take a line for each. A text is written in the plainest of
the four kinds of quotes that can hold it.
-/

namespace Admission.Toml

/-- The longest run of a character in a text. -/
def longestRun (c : Char) (cs : List Char) : Nat :=
  (cs.foldl (fun (acc : Nat × Nat) x =>
    let here := if x == c then acc.1 + 1 else 0
    (here, max acc.2 here)) (0, 0)).2

/-- Whether a character can only be written by an escape. -/
def needsEscape (c : Char) : Bool :=
  c != '\t' && c != '\n' && (c.toNat < 0x20 || c.toNat == 0x7F)

/-- A character inside double quotes: escaped if it has to be, a line break only on one line. -/
def escapedChar (multiline : Bool) (c : Char) : List Char :=
  if c == '\x08' then ['\\', 'b']
  else if c == '\t' then ['\\', 't']
  else if c == '\n' then if multiline then [c] else ['\\', 'n']
  else if c == '\x0c' then ['\\', 'f']
  else if c == '\r' then ['\\', 'r']
  else if c == '\\' then ['\\', '\\']
  else if c.toNat < 0x20 || c.toNat == 0x7F then
    '\\' :: 'u' :: ((Nat.toDigits 16 (0x10000 + c.toNat)).drop 1).map Char.toUpper
  else [c]

/-- A text inside double quotes: a quote is escaped after 'most' in a row. -/
def escapedChars (multiline : Bool) (most : Nat) : Nat → List Char → List Char
  | _, [] => []
  | quotes, c :: rest =>
    if c == '"' then
      if quotes < most then c :: escapedChars multiline most (quotes + 1) rest
      else '\\' :: c :: escapedChars multiline most 0 rest
    else escapedChar multiline c ++ escapedChars multiline most 0 rest

/-- A text in quotes. -/
def quotedText (s : String) : List Char :=
  let cs := s.toList
  let controls := cs.any needsEscape
  let backslash := cs.contains '\\'
  let lines := cs.contains '\n'
  let single := longestRun '\'' cs
  let double := longestRun '"' cs
  let lineBreak := if lines then ['\n'] else []
  let basic := '"' :: escapedChars false 0 0 cs ++ ['"']
  let longBasic := ['"', '"', '"'] ++ lineBreak ++ escapedChars true 2 0 cs ++ ['"', '"', '"']
  if !controls && !backslash && double == 0 && !lines then basic
  else if !controls && single == 0 && !lines then '\'' :: cs ++ ['\'']
  else if !controls && !backslash && double ≤ 2 then longBasic
  else if !controls && single ≤ 2 then
    ['\'', '\'', '\''] ++ lineBreak ++ cs ++ ['\'', '\'', '\'']
  else if lines then longBasic
  else basic

/-- A part of a key: bare if it can be. -/
def keyChars (key : String) : List Char :=
  if !key.isEmpty && key.toList.all fun c => c.isAlphanum || c == '-' || c == '_' then key.toList
  else quotedText key

/-- The parts of a key with points between them. -/
def pathChars (path : List String) : List Char := ['.'].intercalate (path.map keyChars)

mutual

/-- A value where no header can stand. -/
def valueChars : Value → List Char
  | .string s => quotedText s
  | .integer n => (toString n).toList
  | .float literal => literal.toList
  | .boolean b => (if b then "true" else "false").toList
  | .datetime literal => literal.toList
  | .array [] => ['[', ']']
  | .array [v] => '[' :: valueChars v ++ [']']
  | .array (v :: w :: rest) => '[' :: itemLines (v :: w :: rest) ++ ['\n', ']']
  | .table [] => ['\x7b', '\x7d']
  | .table (p :: rest) => ['\x7b', ' '] ++ inlinePairs (p :: rest) ++ [' ', '\x7d']

def itemLines : List Value → List Char
  | [] => []
  | v :: rest => '\n' :: List.replicate 4 ' ' ++ valueChars v ++ ',' :: itemLines rest

def inlinePairs : List (String × Value) → List Char
  | [] => []
  | [(k, v)] => keyChars k ++ [' ', '=', ' '] ++ valueChars v
  | (k, v) :: rest =>
    keyChars k ++ [' ', '=', ' '] ++ valueChars v ++ [',', ' '] ++ inlinePairs rest

end

/-- The tables of an array that holds nothing else, and at least one. -/
def series? : Value → Option (List (List (String × Value)))
  | .array [] => none
  | .array items => items.mapM fun v => match v with
    | .table pairs => some pairs
    | _ => none
  | _ => none

/-- Whether a value stands on a line of its own table. -/
def isPlainValue (v : Value) : Bool :=
  match v with
  | .table _ => false
  | v => (series? v).isNone

/-- The lines for the plain values of a table. -/
def pairLines (pairs : List (String × Value)) : List Char :=
  (pairs.filter fun p => isPlainValue p.2).flatMap fun p =>
    keyChars p.1 ++ [' ', '=', ' '] ++ valueChars p.2 ++ ['\n']

/-- The parts of a document below the table at a path, each with its header. Tables nest to at most
    'depth' levels. -/
def sections : Nat → List String → List (String × Value) → List (List Char)
  | 0, _, _ => []
  | depth + 1, path, pairs => pairs.flatMap fun p =>
    let here := path ++ [p.1]
    match p.2 with
    | .table inner =>
      let own := inner.any fun q => isPlainValue q.2
      let opened := if own || inner.isEmpty then
          [['['] ++ pathChars here ++ [']', '\n'] ++ pairLines inner] else []
      opened ++ sections depth here inner
    | v => ((series? v).getD []).flatMap fun inner =>
      (['[', '['] ++ pathChars here ++ [']', ']', '\n'] ++ pairLines inner) ::
        sections depth here inner

/-- The document of a table whose tables nest to at most 'depth' levels. -/
def render (depth : Nat) (pairs : List (String × Value)) : String :=
  let own := pairLines pairs
  let parts := sections depth [] pairs
  String.ofList (['\n'].intercalate (if own.isEmpty then parts else own :: parts))

end Admission.Toml
