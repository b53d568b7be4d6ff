import Admission.Codec.Fields
import Admission.Reconcile.Classification

/-!
Classifications as JSON.
-/

namespace Admission.Classification

open Codec

def toJson : Classification → Json
  | .allSucceeded => .str "AllSucceeded"
  | .hardFailed => .str "HardFailed"
  | .pending => .str "Pending"

def ofJson? (j : Json) : Option Classification :=
  match name? j with
  | some "AllSucceeded" => some .allSucceeded
  | some "HardFailed" => some .hardFailed
  | some "Pending" => some .pending
  | _ => none

end Admission.Classification
