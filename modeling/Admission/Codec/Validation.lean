import Admission.Codec.Fields
import Admission.Model.Validation

/-!
Validations and validation sets as JSON.
-/

namespace Admission

open Codec

namespace ValidationStatus

def toJson : ValidationStatus → Json
  | .notStarted => .str "NotStarted"
  | .incomplete => .str "Incomplete"
  | .succeeded => .str "Succeeded"
  | .failed => .str "Failed"

def ofJson? (j : Json) : Option ValidationStatus :=
  match name? j with
  | some "NotStarted" => some .notStarted
  | some "Incomplete" => some .incomplete
  | some "Succeeded" => some .succeeded
  | some "Failed" => some .failed
  | _ => none

end ValidationStatus

namespace ValidationIssue

def toJson : ValidationIssue → Json
  | .unknown => .str "Unknown"
  | .packageIsSigned => .str "PackageIsSigned"

def ofJson? (j : Json) : Option ValidationIssue :=
  match name? j with
  | some "Unknown" => some .unknown
  | some "PackageIsSigned" => some .packageIsSigned
  | _ => none

end ValidationIssue

namespace Validation

def toJson (v : Validation) : Json := .record [
  ("id", ofUuid v.id),
  ("validator", .str v.validator),
  ("status", v.status.toJson),
  ("issues", ofList ValidationIssue.toJson v.issues)]

def ofJson? (j : Json) : Option Validation := do
  let [id, validator, status, issues] ← record? ["id", "validator", "status", "issues"] j | none
  return {
    id := ← required uuid? id
    validator := ← required text? validator
    status := ← required ValidationStatus.ofJson? status
    issues := ← withDefault [] (list? ValidationIssue.ofJson?) issues }

end Validation

namespace ValidationSet

def toJson (s : ValidationSet) : Json := .record [
  ("tracking_id", ofUuid s.trackingId),
  ("package_id", .str s.packageId),
  ("package_normalized_version", .str s.packageNormalizedVersion),
  ("created", ofInstant s.created),
  ("validations", ofList Validation.toJson s.validations)]

def ofJson? (j : Json) : Option ValidationSet := do
  let [trackingId, packageId, version, created, validations] ←
    record? ["tracking_id", "package_id", "package_normalized_version", "created", "validations"] j
    | none
  return {
    trackingId := ← required uuid? trackingId
    packageId := ← required text? packageId
    packageNormalizedVersion := ← required text? version
    created := ← required instant? created
    validations := ← withDefault [] (list? Validation.ofJson?) validations }

end ValidationSet

end Admission
