/-!
JSON documents. Numbers are kept as far as the library reads them: whole numbers by value, all
others by their digits. A string literal has no text if it escapes half of a surrogate pair or holds
bytes that are no character; such a literal, or an object with such a name, may stand where nothing
reads it ('unreadable').
-/

namespace Admission

/-- The name of a member: its text, and whether it is written plainly, without escapes. -/
structure MemberName where
  text : String
  plain : Bool
deriving DecidableEq, Repr, Inhabited

/-- A JSON document. -/
inductive Json where
  | null
  | bool (b : Bool)
  | int (n : Int)
  | decimal (literal : String)
  | str (s : String)
  | arr (items : List Json)
  | obj (members : List (MemberName × Json))
  | unreadable
deriving Repr, Inhabited

namespace Json

/-- The object of these fields, with plain names. -/
def record (fields : List (String × Json)) : Json := .obj (fields.map fun f => (⟨f.1, true⟩, f.2))

mutual

/-- The number of containers around the innermost value, itself included. -/
def depth : Json → Nat
  | .arr items => depthItems items + 1
  | .obj members => depthMembers members + 1
  | _ => 0

def depthItems : List Json → Nat
  | [] => 0
  | j :: rest => max (depth j) (depthItems rest)

def depthMembers : List (MemberName × Json) → Nat
  | [] => 0
  | (_, j) :: rest => max (depth j) (depthMembers rest)

end

mutual

/-- Whether every scalar in the document passes the test. -/
def allScalars (p : Json → Bool) : Json → Bool
  | .arr items => allItems p items
  | .obj members => allMembers p members
  | j => p j

def allItems (p : Json → Bool) : List Json → Bool
  | [] => true
  | j :: rest => allScalars p j && allItems p rest

def allMembers (p : Json → Bool) : List (MemberName × Json) → Bool
  | [] => true
  | (_, j) :: rest => allScalars p j && allMembers p rest

end

end Json

end Admission
