import Admission.Codec.Fields
import Admission.Config.Basic

/-!
Configurations as JSON. A validator without a period of its own or without prerequisites is written
without these fields.
-/

namespace Admission

open Codec

namespace FailureBehavior

def toJson (b : FailureBehavior) : Json := .str b.text

/-- The behavior of that name. -/
def ofText? : String → Option FailureBehavior
  | "must_succeed" => some .mustSucceed
  | "allowed_to_fail" => some .allowedToFail
  | _ => none

def ofJson? (j : Json) : Option FailureBehavior := (name? j).bind ofText?

end FailureBehavior

namespace ValidatorConfig

/-- The names of the fields of a validator, in order. -/
def fieldNames : List String :=
  ["name", "required", "failure_behavior", "recheck_period_secs", "required_validations"]

def toJson (v : ValidatorConfig) : Json := .record (
  [("name", .str v.name),
    ("required", .bool v.required),
    ("failure_behavior", v.failureBehavior.toJson)] ++
  (v.recheckPeriodSecs.elim [] fun secs => [("recheck_period_secs", ofUInt64 secs)]) ++
  (if v.requiredValidations.isEmpty then []
    else [("required_validations", ofList Json.str v.requiredValidations)]))

def ofJson? (j : Json) : Option ValidatorConfig := do
  let [name, started, behavior, period, prerequisites] ← record? fieldNames j | none
  return {
    name := ← Codec.required text? name
    required := ← withDefault true bool? started
    failureBehavior := ← withDefault .mustSucceed FailureBehavior.ofJson? behavior
    recheckPeriodSecs := ← withDefault none (nullable uint64?) period
    requiredValidations := ← withDefault [] (list? text?) prerequisites }

end ValidatorConfig

namespace ValidationConfig

/-- The names of the fields of the validation settings, in order. -/
def fieldNames : List String := ["recheck_period_secs", "validators"]

def toJson (v : ValidationConfig) : Json := .record [
  ("recheck_period_secs", ofUInt64 v.recheckPeriodSecs),
  ("validators", ofList ValidatorConfig.toJson v.validators)]

def ofJson? (j : Json) : Option ValidationConfig := do
  let [period, validators] ← record? fieldNames j | none
  return {
    recheckPeriodSecs := ← withDefault Config.defaultRecheckPeriodSecs uint64? period
    validators := ← withDefault [] (list? ValidatorConfig.ofJson?) validators }

end ValidationConfig

namespace CertificateConfig

/-- The names of the fields of the certificate settings, in order. -/
def fieldNames : List String := ["maximum_validation_failures"]

def toJson (c : CertificateConfig) : Json := .record [
  ("maximum_validation_failures", ofUInt32 c.maximumValidationFailures)]

def ofJson? (j : Json) : Option CertificateConfig := do
  let [maximum] ← record? fieldNames j | none
  return {
    maximumValidationFailures :=
      ← withDefault Config.defaultMaximumValidationFailures uint32? maximum }

end CertificateConfig

namespace Config

/-- The names of the sections of a configuration, in order. -/
def fieldNames : List String := ["validation", "certificates"]

def toJson (c : Config) : Json := .record [
  ("validation", c.validation.toJson),
  ("certificates", c.certificates.toJson)]

def ofJson? (j : Json) : Option Config := do
  let [validation, certificates] ← record? fieldNames j | none
  return {
    validation := ← withDefault .default ValidationConfig.ofJson? validation
    certificates := ← withDefault .default CertificateConfig.ofJson? certificates }

end Config

end Admission
