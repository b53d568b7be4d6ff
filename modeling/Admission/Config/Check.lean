import Admission.Config.Dependencies
import Admission.Config.Problem
import Admission.Text.Blank

/-!
The check of a configuration. It lists every problem there is, in the order in which the
configuration is read, and refuses a configuration with any.
-/

namespace Admission.Config

/-- The problem of a re-check period outside 1 to the longest. -/
def periodProblems (scope : String) (secs : UInt64) : List ConfigProblem :=
  if secs == 0 || secs > maxRecheckPeriodSecs then [.invalidRecheckPeriod scope secs] else []

/-- The problems of the validators by themselves; 'seen' holds the names before them. Of one
    without a name nothing more is looked at. -/
def validatorProblems (seen : List String) : List ValidatorConfig → List ConfigProblem
  | [] => []
  | v :: rest =>
    if Text.allBlank v.name then .emptyValidatorName :: validatorProblems seen rest
    else
      (if seen.contains v.name then [.duplicateValidator v.name] else []) ++
        (v.recheckPeriodSecs.elim [] (periodProblems v.name)) ++
        validatorProblems (v.name :: seen) rest

/-- The validators that have a name, by name; the last one of a name counts. -/
def byName (validators : List ValidatorConfig) : Dependencies.ByName :=
  .ofValues (·.name) (validators.filter fun v => !Text.allBlank v.name)

/-- The problem of one prerequisite. -/
def prerequisiteProblems (byName : Dependencies.ByName) (validator required : String) :
    List ConfigProblem :=
  match byName.find? required with
  | none => [.unknownRequiredValidation validator required]
  | some v => if v.required then [] else [.prerequisiteNotStarted validator required]

/-- The problems of all prerequisites. -/
def requirementProblems (byName : Dependencies.ByName) (validators : List ValidatorConfig) :
    List ConfigProblem :=
  validators.flatMap fun v => v.requiredValidations.flatMap (prerequisiteProblems byName v.name)

/-- Every problem of a configuration. -/
def problems (c : Config) : List ConfigProblem :=
  let validators := c.validation.validators
  periodProblems "validation" c.validation.recheckPeriodSecs ++
    validatorProblems [] validators ++
    requirementProblems (byName validators) validators ++
    ((Dependencies.findCycle? (byName validators)).elim [] fun name => [.dependencyCycle name]) ++
    (if c.certificates.maximumValidationFailures == 0 then [.invalidMaximumValidationFailures]
      else [])

/-- Accepts a configuration without problems. -/
def validate (c : Config) : Except ConfigRefusal Unit :=
  match c.problems with
  | [] => .ok ()
  | [p] => .error (.single p)
  | ps => .error (.multiple ps)

end Admission.Config
