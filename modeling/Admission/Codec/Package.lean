import Admission.Codec.Fields
import Admission.Model.Package

/-!
Packages as JSON.
-/

namespace Admission

open Codec

namespace PackageStatus

def toJson : PackageStatus → Json
  | .validating => .str "Validating"
  | .available => .str "Available"
  | .failedValidation => .str "FailedValidation"

def ofJson? (j : Json) : Option PackageStatus :=
  match name? j with
  | some "Validating" => some .validating
  | some "Available" => some .available
  | some "FailedValidation" => some .failedValidation
  | _ => none

end PackageStatus

namespace Package

def toJson (p : Package) : Json := .record [
  ("key", ofInt64 p.key),
  ("id", .str p.id),
  ("version", .str p.version),
  ("normalized_version", .str p.normalizedVersion),
  ("status", p.status.toJson)]

def ofJson? (j : Json) : Option Package := do
  let [key, id, version, normalizedVersion, status] ←
    record? ["key", "id", "version", "normalized_version", "status"] j | none
  return {
    key := ← required int64? key
    id := ← required text? id
    version := ← required text? version
    normalizedVersion := ← required text? normalizedVersion
    status := ← required PackageStatus.ofJson? status }

end Package

end Admission
