import Admission.Codec.Config
import Admission.Config.Check
import Admission.Toml.Parser
import Admission.Toml.Printer

/-!
Configurations as TOML. A section may be a table of its fields, in any order and among others, or an
array of them in order.
-/

namespace Admission

namespace Codec.Table

open Toml

/-- The fields of a record in the order of their names. A date has none of them. -/
def record? (names : List String) : Value → Option (List (Option Value))
  | .table items => some (names.map fun name => items.lookup name)
  | .array items =>
    some ((items.take names.length).map some ++ List.replicate (names.length - items.length) none)
  | .datetime _ => some (names.map fun _ => none)
  | _ => none

variable {α : Type}

/-- A field that has to be there. -/
def required (read : Value → Option α) (field : Option Value) : Option α := field.bind read

/-- A field that has a value when it is absent. -/
def withDefault (default : α) (read : Value → Option α) : Option Value → Option α
  | none => some default
  | some v => read v

def text? : Value → Option String
  | .string s => some s
  | _ => none

def bool? : Value → Option Bool
  | .boolean b => some b
  | _ => none

def list? (read : Value → Option α) : Value → Option (List α)
  | .array items => items.mapM read
  | _ => none

def uint32? : Value → Option UInt32
  | .integer n => if 0 ≤ n ∧ n < 4294967296 then some (UInt32.ofNat n.toNat) else none
  | _ => none

def uint64? : Value → Option UInt64
  | .integer n => if 0 ≤ n ∧ n < 18446744073709551616 then some (UInt64.ofNat n.toNat) else none
  | _ => none

/-- The name of an alternative without content: a string, or a table from the name to nothing. -/
def name? : Value → Option String
  | .string s => some s
  | .table [(s, .table [])] => some s
  | .table [(s, .array [])] => some s
  | _ => none

end Codec.Table

open Codec.Table

def ValidatorConfig.ofToml? (v : Toml.Value) : Option ValidatorConfig := do
  let [name, started, behavior, period, prerequisites] ← record? fieldNames v | none
  return {
    name := ← Codec.Table.required text? name
    required := ← withDefault true bool? started
    failureBehavior := ←
      withDefault .mustSucceed (fun b => (name? b).bind FailureBehavior.ofText?) behavior
    recheckPeriodSecs := ← withDefault none (fun p => (uint64? p).map some) period
    requiredValidations := ← withDefault [] (list? text?) prerequisites }

def ValidationConfig.ofToml? (v : Toml.Value) : Option ValidationConfig := do
  let [period, validators] ← record? fieldNames v | none
  return {
    recheckPeriodSecs := ← withDefault Config.defaultRecheckPeriodSecs uint64? period
    validators := ← withDefault [] (list? ValidatorConfig.ofToml?) validators }

def CertificateConfig.ofToml? (v : Toml.Value) : Option CertificateConfig := do
  let [maximum] ← record? fieldNames v | none
  return {
    maximumValidationFailures :=
      ← withDefault Config.defaultMaximumValidationFailures uint32? maximum }

namespace Config

def ofToml? (v : Toml.Value) : Option Config := do
  let [validation, certificates] ← record? fieldNames v | none
  return {
    validation := ← withDefault .default ValidationConfig.ofToml? validation
    certificates := ← withDefault .default CertificateConfig.ofToml? certificates }

/-- Reads a configuration from a text and checks it. -/
def ofText (text : String) : Except ConfigError Config :=
  match (Toml.parse? text).bind ofToml? with
  | none => .error .malformed
  | some c =>
    match c.validate with
    | .ok () => .ok c
    | .error r => .error (.refused r)

end Config

def ValidatorConfig.toToml (v : ValidatorConfig) : Toml.Value := .table (
  [("name", .string v.name),
    ("required", .boolean v.required),
    ("failure_behavior", .string v.failureBehavior.text)] ++
  (v.recheckPeriodSecs.elim [] fun secs => [("recheck_period_secs", .integer secs.toNat)]) ++
  (if v.requiredValidations.isEmpty then []
    else [("required_validations", .array (v.requiredValidations.map .string))]))

namespace Config

/-- The tables of a configuration. -/
def toToml (c : Config) : List (String × Toml.Value) := [
  ("validation", .table [
    ("recheck_period_secs", .integer c.validation.recheckPeriodSecs.toNat),
    ("validators", .array (c.validation.validators.map ValidatorConfig.toToml))]),
  ("certificates", .table [
    ("maximum_validation_failures",
      .integer c.certificates.maximumValidationFailures.toNat)])]

/-- The written form of a configuration. -/
def text (c : Config) : String := Toml.render 3 c.toToml

end Config

end Admission
