import Admission.Config.Check
import Admission.Log
import Admission.Model.Validation

/-!
The policy under which validation sets are judged: the checked form of the configuration, and for
each recorded validation the policy of its validator. A validator without a policy has to succeed.
-/

namespace Admission

/-- How one validator is treated. -/
structure ValidatorPolicy where
  required : Bool
  failureBehavior : FailureBehavior
  recheckPeriod : Duration
deriving DecidableEq

namespace ValidatorPolicy

def mustSucceed (recheckPeriod : Duration) : ValidatorPolicy := ⟨true, .mustSucceed, recheckPeriod⟩

def allowedToFail (recheckPeriod : Duration) : ValidatorPolicy :=
  ⟨true, .allowedToFail, recheckPeriod⟩

end ValidatorPolicy

/-- The policies of validators by name, and what holds beside them. -/
structure Policy where
  validators : SortedMap String ValidatorPolicy
  defaultRecheckPeriod : Duration
  maxValidationFailures : UInt32
deriving DecidableEq

namespace Policy

/-- The policy without validators. -/
def new (defaultRecheckPeriod : Duration) (maxValidationFailures : UInt32) : Policy :=
  ⟨.empty, defaultRecheckPeriod, maxValidationFailures⟩

/-- Files the policy of a validator under its name. -/
def withValidator (p : Policy) (name : String) (policy : ValidatorPolicy) : Policy :=
  { p with validators := p.validators.insert name policy }

/-- A period of seconds, at most the longest one. -/
def period (secs : UInt64) : Duration :=
  .ofSeconds (min secs.toNat Config.maxRecheckPeriodSecs.toNat)

/-- How a validator is treated where the default period is 'default'. -/
def ofValidator (default : Duration) (v : ValidatorConfig) : ValidatorPolicy :=
  ⟨v.required, v.failureBehavior, v.recheckPeriodSecs.elim default period⟩

/-- The policy of a configuration, if it is accepted. -/
def ofConfig (c : Config) : Except ConfigRefusal Policy := do
  c.validate
  let default := period c.validation.recheckPeriodSecs
  return c.validation.validators.foldl
    (fun p v => p.withValidator v.name (ofValidator default v))
    (new default c.certificates.maximumValidationFailures)

end Policy

/-- A validation with the policy of its validator. -/
structure ResolvedValidation where
  validation : Validation
  policy : ValidatorPolicy
deriving DecidableEq

namespace ResolvedValidation

/-- Failed where failure is not allowed. -/
def isHardFailure (r : ResolvedValidation) : Bool :=
  r.validation.status == .failed && r.policy.failureBehavior == .mustSucceed

/-- Not finished yet. -/
def isPending (r : ResolvedValidation) : Bool :=
  r.validation.status == .notStarted || r.validation.status == .incomplete

end ResolvedValidation

namespace Policy

/-- The policy for a validator name. -/
def policyFor (p : Policy) (validator : String) : ValidatorPolicy :=
  (p.validators.find? validator).getD (.mustSucceed p.defaultRecheckPeriod)

/-- The recorded validations of a set with their policies, in the order of the set. -/
def resolve (p : Policy) (set : ValidationSet) : List ResolvedValidation :=
  set.validations.map fun v => ⟨v, p.policyFor v.validator⟩

/-- The warnings about validators without a policy, one for each validation of such a one. -/
def missingPolicyLogs (p : Policy) (set : ValidationSet) : List LogEntry :=
  (set.validations.filter fun v => !p.validators.contains v.validator).map fun v =>
    .warn "No policy configured for validator, treating it as must-succeed" [
      ("validation_tracking_id", .text set.trackingId.text),
      ("validator", .text v.validator)]

end Policy

end Admission
