import Admission.Codec.Signature
import Admission.Text.Digits
import Admission.Trust.Graph

/-!
Trust graphs as JSON: three objects whose member names are the keys in decimal, as they are
printed and in no other way, and without escapes. Of several members under one key the last one
counts.
-/

namespace Admission

open Codec

namespace TrustGraph

variable {α : Type}

/-- The key that a member name is the decimal form of, if it is written plainly. -/
def keyOfName? (name : MemberName) : Option Int64 :=
  let cs := name.text.toList
  let n : Int := Text.decimalValue (cs.filter Char.isDigit)
  let value := if cs.head? == some '-' then -n else n
  if name.plain && toString value == name.text then ofInt64? value else none

def mapOfJson? (read : Json → Option α) : Json → Option (SortedMap Int64 α)
  | .obj members => do
    let entries ← members.mapM fun m => do return (← keyOfName? m.1, ← read m.2)
    return .ofList entries
  | _ => none

def jsonOfMap (write : α → Json) (m : SortedMap Int64 α) : Json :=
  .record (m.entries.map fun e => (toString e.1.toInt, write e.2))

def toJson (g : TrustGraph) : Json := .record [
  ("signatures", jsonOfMap Signature.toJson g.signatures),
  ("timestamps", jsonOfMap TrustedTimestamp.toJson g.timestamps),
  ("signing_states", jsonOfMap SigningState.toJson g.signingStates)]

def ofJson? (j : Json) : Option TrustGraph := do
  let [signatures, timestamps, signingStates] ←
    record? ["signatures", "timestamps", "signing_states"] j | none
  return {
    signatures := ← required (mapOfJson? Signature.ofJson?) signatures
    timestamps := ← required (mapOfJson? TrustedTimestamp.ofJson?) timestamps
    signingStates := ← required (mapOfJson? SigningState.ofJson?) signingStates }

end TrustGraph

end Admission
