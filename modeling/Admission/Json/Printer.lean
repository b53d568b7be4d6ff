import Admission.Json.Value

/-!
The two written forms of a JSON document: on one line without white space, and with one item a
line at an indentation of two spaces a level.
-/

namespace Admission.Json

/-- A character as it stands inside a string literal. -/
def escapeChar (c : Char) : List Char :=
  if c == '"' then ['\\', '"']
  else if c == '\\' then ['\\', '\\']
  else if c == '\x08' then ['\\', 'b']
  else if c == '\t' then ['\\', 't']
  else if c == '\n' then ['\\', 'n']
  else if c == '\x0c' then ['\\', 'f']
  else if c == '\r' then ['\\', 'r']
  else if c.toNat < 0x20 then
    ['\\', 'u', '0', '0', Nat.digitChar (c.toNat / 16), Nat.digitChar (c.toNat % 16)]
  else [c]

/-- A string literal. -/
def literalChars (s : String) : List Char := '"' :: s.toList.flatMap escapeChar ++ ['"']

mutual

/-- The document on one line. -/
def compactChars : Json → List Char
  | .null => "null".toList
  | .bool b => (if b then "true" else "false").toList
  | .int n => (toString n).toList
  | .decimal literal => literal.toList
  | .str s => literalChars s
  | .arr items => '[' :: compactItems items ++ [']']
  | .obj members => '\x7b' :: compactMembers members ++ ['\x7d']
  | .unreadable => "null".toList

def compactItems : List Json → List Char
  | [] => []
  | [j] => compactChars j
  | j :: rest => compactChars j ++ ',' :: compactItems rest

def compactMembers : List (MemberName × Json) → List Char
  | [] => []
  | [(k, j)] => literalChars k.text ++ ':' :: compactChars j
  | (k, j) :: rest => literalChars k.text ++ ':' :: compactChars j ++ ',' :: compactMembers rest

end

/-- A line break and the indentation of a level. -/
def lineBreak (level : Nat) : List Char := '\n' :: List.replicate (2 * level) ' '

mutual

/-- The document with one item a line, at that level of indentation. -/
def prettyChars (level : Nat) : Json → List Char
  | .arr [] => ['[', ']']
  | .arr (j :: rest) => '[' :: prettyItems (level + 1) (j :: rest) ++ lineBreak level ++ [']']
  | .obj [] => ['\x7b', '\x7d']
  | .obj (m :: rest) =>
    '\x7b' :: prettyMembers (level + 1) (m :: rest) ++ lineBreak level ++ ['\x7d']
  | .null => "null".toList
  | .bool b => (if b then "true" else "false").toList
  | .int n => (toString n).toList
  | .decimal literal => literal.toList
  | .str s => literalChars s
  | .unreadable => "null".toList

def prettyItems (level : Nat) : List Json → List Char
  | [] => []
  | [j] => lineBreak level ++ prettyChars level j
  | j :: rest => lineBreak level ++ prettyChars level j ++ ',' :: prettyItems level rest

def prettyMembers (level : Nat) : List (MemberName × Json) → List Char
  | [] => []
  | [(k, j)] => lineBreak level ++ literalChars k.text ++ ':' :: ' ' :: prettyChars level j
  | (k, j) :: rest =>
    lineBreak level ++ literalChars k.text ++ ':' :: ' ' :: prettyChars level j ++
      ',' :: prettyMembers level rest

end

def compact (j : Json) : String := String.ofList (compactChars j)

def pretty (j : Json) : String := String.ofList (prettyChars 0 j)

end Admission.Json
