import Admission.Text.Quoted

/-!
What can be wrong with a configuration, and how it is told. A configuration with several problems
is refused with all of them.
-/

namespace Admission

/-- One thing wrong with a configuration. -/
inductive ConfigProblem where
  | invalidRecheckPeriod (scope : String) (secs : UInt64)
  | emptyValidatorName
  | duplicateValidator (name : String)
  | unknownRequiredValidation (validator required : String)
  | prerequisiteNotStarted (validator required : String)
  | dependencyCycle (name : String)
  | invalidMaximumValidationFailures
deriving DecidableEq

/-- Why a configuration is refused: its only problem, or all of several. -/
inductive ConfigRefusal where
  | single (problem : ConfigProblem)
  | multiple (problems : List ConfigProblem)
deriving DecidableEq

/-- Why the text of a configuration yields none that can be used. -/
inductive ConfigError where
  | malformed
  | refused (reason : ConfigRefusal)
deriving DecidableEq

namespace ConfigProblem

/-- The problem in a sentence. -/
def message : ConfigProblem → String
  | invalidRecheckPeriod scope secs =>
    "Invalid recheck period for " ++ scope ++ ": " ++ toString secs.toNat ++
      "s (must be between 1 and 604800)"
  | emptyValidatorName => "Validator name must not be empty"
  | duplicateValidator name => "Validator configured more than once: " ++ name
  | unknownRequiredValidation validator required =>
    "Validator " ++ validator ++ " requires unknown validator " ++ required
  | prerequisiteNotStarted validator required =>
    "Validator " ++ validator ++ " requires " ++ required ++
      ", which is not started (required = false)"
  | dependencyCycle name => "Validator dependency cycle involving " ++ name
  | invalidMaximumValidationFailures => "maximum_validation_failures must be at least 1"

/-- The name of the kind of problem. -/
def kind : ConfigProblem → String
  | invalidRecheckPeriod .. => "InvalidRecheckPeriod"
  | emptyValidatorName => "EmptyValidatorName"
  | duplicateValidator _ => "DuplicateValidator"
  | unknownRequiredValidation .. => "UnknownRequiredValidation"
  | prerequisiteNotStarted .. => "PrerequisiteNotStarted"
  | dependencyCycle _ => "DependencyCycle"
  | invalidMaximumValidationFailures => "InvalidMaximumValidationFailures"

/-- A kind with its fields between braces. -/
def record (kind : String) (fields : List (String × String)) : String :=
  kind ++ " \x7b " ++ ", ".intercalate (fields.map fun f => f.1 ++ ": " ++ f.2) ++ " \x7d"

/-- The problem as it stands in a list of problems: its kind and its fields, texts quoted. -/
def entry (p : ConfigProblem) : String :=
  match p with
  | invalidRecheckPeriod scope secs =>
    record p.kind [("scope", Text.quoted scope), ("secs", toString secs.toNat)]
  | duplicateValidator name => record p.kind [("name", Text.quoted name)]
  | unknownRequiredValidation validator required =>
    record p.kind [("validator", Text.quoted validator), ("required", Text.quoted required)]
  | prerequisiteNotStarted validator required =>
    record p.kind [("validator", Text.quoted validator), ("required", Text.quoted required)]
  | dependencyCycle name => record p.kind [("name", Text.quoted name)]
  | _ => p.kind

end ConfigProblem

namespace ConfigRefusal

/-- The problems that a refusal tells of. -/
def problems : ConfigRefusal → List ConfigProblem
  | single p => [p]
  | multiple ps => ps

/-- The refusal in a sentence. -/
def message : ConfigRefusal → String
  | single p => p.message
  | multiple ps => "Multiple validation errors: [" ++ ", ".intercalate (ps.map (·.entry)) ++ "]"

/-- The name of the kind of refusal. -/
def kind : ConfigRefusal → String
  | single p => p.kind
  | multiple _ => "Multiple"

end ConfigRefusal

/-- The error in a sentence. -/
def ConfigError.message : ConfigError → String
  | malformed => "Failed to parse TOML configuration"
  | refused reason => "Configuration validation failed: " ++ reason.message

end Admission
