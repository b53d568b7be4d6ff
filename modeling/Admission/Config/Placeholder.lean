/-!
Placeholders for variables of the environment in the text of a configuration: a dollar sign and a
variable between braces, which may be followed by a colon, a hyphen and a default, or by a colon, a
question mark and a message for the case that the variable is not set. The text is read once from
left to right; what is put in for a placeholder is not read again.
-/

namespace Admission

/-- What stands in a placeholder. -/
inductive Placeholder where
  | plain (name : String)
  | withDefault (name default : String)
  | required (name message : String)
deriving DecidableEq, Repr

/-- A piece of a text with placeholders. -/
inductive TextPiece where
  | char (c : Char)
  | placeholder (expr : List Char)
deriving DecidableEq, Repr

/-- A variable that has to be set is not. -/
structure UnsetVariable where
  name : String
  note : Option String
deriving DecidableEq, Repr

/-- The error in words. -/
def UnsetVariable.message (e : UnsetVariable) : String :=
  "Required environment variable '" ++ e.name ++ "' is not set" ++
    e.note.elim "" (": " ++ ·)

namespace Placeholder

/-- Splits a text at the first place where the two characters stand side by side. -/
def splitAt? (a b : Char) : List Char → Option (List Char × List Char)
  | x :: y :: rest =>
    if x = a ∧ y = b then some ([], rest)
    else (splitAt? a b (y :: rest)).map fun r => (x :: r.1, r.2)
  | _ => none

/-- Reads what stands between the braces. A default goes before a message. -/
def ofChars (expr : List Char) : Placeholder :=
  match splitAt? ':' '-' expr with
  | some (name, default) => .withDefault (String.ofList name) (String.ofList default)
  | none =>
    match splitAt? ':' '?' expr with
    | some (name, message) => .required (String.ofList name) (String.ofList message)
    | none => .plain (String.ofList expr)

/-- The variable of a placeholder. -/
def name : Placeholder → String
  | plain n => n
  | withDefault n _ => n
  | required n _ => n

/-- What is put in for a placeholder. -/
def value (setting? : String → Option String) : Placeholder → Except UnsetVariable String
  | plain n => (setting? n).elim (.error ⟨n, none⟩) .ok
  | withDefault n default => .ok ((setting? n).getD default)
  | required n message => (setting? n).elim (.error ⟨n, some message⟩) .ok

/-- A placeholder at the front of a text, and the text after it. There has to be something between
    the braces. -/
def atFront? : List Char → Option (List Char × List Char)
  | '$' :: '\x7b' :: rest =>
    match rest.takeWhile (· != '\x7d'), rest.dropWhile (· != '\x7d') with
    | c :: expr, _ :: after => some (c :: expr, after)
    | _, _ => none
  | _ => none

theorem atFront?_length {text expr after : List Char} (h : atFront? text = some (expr, after)) :
    after.length < text.length := by
  unfold atFront? at h
  split at h
  · rename_i rest
    split at h
    · rename_i c e x a h₁ h₂
      have := (List.dropWhile_sublist (l := rest) (· != '\x7d')).length_le
      grind
    · simp at h
  · simp at h

/-- The pieces of a text. -/
def pieces (text : List Char) : List TextPiece :=
  match _h : atFront? text with
  | some (expr, after) => .placeholder expr :: pieces after
  | none =>
    match text with
    | [] => []
    | c :: rest => .char c :: pieces rest
termination_by text.length
decreasing_by
  · exact atFront?_length _h
  · simp

/-- The variables that the placeholders of a text ask for, in order. -/
def names (text : List Char) : List String :=
  (pieces text).filterMap fun
    | .char _ => none
    | .placeholder expr => some (ofChars expr).name

/-- What a piece is written as. -/
def pieceText (setting? : String → Option String) :
    TextPiece → Except UnsetVariable (List Char)
  | .char c => .ok [c]
  | .placeholder expr => do return (← (ofChars expr).value setting?).toList

/-- The text with values put in for its placeholders. -/
def substitute (setting? : String → Option String) (text : List Char) :
    Except UnsetVariable (List Char) := do
  return (← (pieces text).mapM (pieceText setting?)).flatten

end Placeholder

end Admission
