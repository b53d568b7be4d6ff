/-!
The configuration as it is written: which validators there are and how they are treated, how often
unfinished validations are looked at again, and how many indeterminate verifications a certificate
may have in a row.
-/

namespace Admission

/-- What the failure of a validator means for the package. -/
inductive FailureBehavior where
  | mustSucceed
  | allowedToFail
deriving DecidableEq, Repr

/-- One validator. Its own re-check period, if it has one, goes before the default. -/
structure ValidatorConfig where
  name : String
  required : Bool
  failureBehavior : FailureBehavior
  recheckPeriodSecs : Option UInt64
  requiredValidations : List String
deriving DecidableEq

/-- The settings for validations. -/
structure ValidationConfig where
  recheckPeriodSecs : UInt64
  validators : List ValidatorConfig
deriving DecidableEq

/-- The settings for certificates. -/
structure CertificateConfig where
  maximumValidationFailures : UInt32
deriving DecidableEq

/-- The whole configuration. -/
structure Config where
  validation : ValidationConfig
  certificates : CertificateConfig
deriving DecidableEq

/-- The word for a behavior in configurations. -/
def FailureBehavior.text : FailureBehavior → String
  | .mustSucceed => "must_succeed"
  | .allowedToFail => "allowed_to_fail"

namespace Config

/-- A minute between looks at unfinished validations. -/
def defaultRecheckPeriodSecs : UInt64 := 60

/-- Five indeterminate verifications. -/
def defaultMaximumValidationFailures : UInt32 := 5

/-- The longest re-check period, a week. -/
def maxRecheckPeriodSecs : UInt64 := 604800

end Config

/-- The settings that hold when none are given. -/
def ValidationConfig.default : ValidationConfig := ⟨Config.defaultRecheckPeriodSecs, []⟩

/-- The settings that hold when none are given. -/
def CertificateConfig.default : CertificateConfig := ⟨Config.defaultMaximumValidationFailures⟩

/-- The configuration that holds when none is given. -/
def Config.default : Config := ⟨.default, .default⟩

instance : Inhabited Config := ⟨Config.default⟩

end Admission
