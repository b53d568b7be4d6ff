import Admission.Json.Value
import Admission.Time.Text
import Admission.Uuid

/-!
Reading and writing the parts that records have in common. A record is an object of its fields, in
any order and among others, or an array of them in order; a field that is read may occur once only.
Whole numbers have to be written as such and lie in the range of their type.
-/

namespace Admission.Codec

open Json

/-- The member of that name; nothing at all if there are two. -/
def member? (name : String) (members : List (MemberName × Json)) : Option (Option Json) :=
  match members.filter (·.1.text == name) with
  | [] => some none
  | [m] => some (some m.2)
  | _ => none

/-- The fields of a record in the order of their names; a field may be absent, which in an array
    only those at the end can be. -/
def record? (names : List String) : Json → Option (List (Option Json))
  | .obj members => names.mapM fun name => member? name members
  | .arr items =>
    if items.length ≤ names.length then
      some (items.map some ++ List.replicate (names.length - items.length) none)
    else none
  | _ => none

variable {α : Type}

/-- A field that has to be there. -/
def required (read : Json → Option α) (field : Option Json) : Option α := field.bind read

/-- A field that has a value when it is absent. -/
def withDefault (default : α) (read : Json → Option α) : Option Json → Option α
  | none => some default
  | some j => read j

/-- A value or null. -/
def nullable (read : Json → Option α) : Json → Option (Option α)
  | .null => some none
  | j => (read j).map some

def ofNullable (write : α → Json) : Option α → Json
  | none => .null
  | some a => write a

def text? : Json → Option String
  | .str s => some s
  | _ => none

def bool? : Json → Option Bool
  | .bool b => some b
  | _ => none

def list? (read : Json → Option α) : Json → Option (List α)
  | .arr items => items.mapM read
  | _ => none

def ofList (write : α → Json) (l : List α) : Json := .arr (l.map write)

/-- The name of an alternative without content: a string, or an object from the name to null. -/
def name? : Json → Option String
  | .str s => some s
  | .obj [(name, .null)] => some name.text
  | _ => none

/-- A signed number of 64 bits. -/
def ofInt64? (n : Int) : Option Int64 :=
  if -9223372036854775808 ≤ n ∧ n < 9223372036854775808 then some (Int64.ofInt n) else none

def int64? : Json → Option Int64
  | .int n => ofInt64? n
  | _ => none

def ofInt64 (n : Int64) : Json := .int n.toInt

def uint32? : Json → Option UInt32
  | .int n => if 0 ≤ n ∧ n < 4294967296 then some (UInt32.ofNat n.toNat) else none
  | _ => none

def ofUInt32 (n : UInt32) : Json := .int n.toNat

def uint64? : Json → Option UInt64
  | .int n => if 0 ≤ n ∧ n < 18446744073709551616 then some (UInt64.ofNat n.toNat) else none
  | _ => none

def ofUInt64 (n : UInt64) : Json := .int n.toNat

def uuid? : Json → Option Uuid
  | .str s => Uuid.ofText? s
  | _ => none

def ofUuid (u : Uuid) : Json := .str u.text

def instant? : Json → Option Instant
  | .str s => Instant.ofText? s
  | _ => none

def ofInstant (t : Instant) : Json := .str t.text

end Admission.Codec
