import Admission.Command.Attempt
import Admission.Policy

/-!
The command that checks the configuration and prints it with the policies that it comes to.
-/

namespace Admission

/-- The source of a configuration, as it is told. -/
def ConfigSource.text : ConfigSource → String
  | .file path => path
  | .defaults => "built-in defaults"

/-- The policy for a validator on one line. -/
def ValidatorPolicy.line (name : String) (v : ValidatorPolicy) : String :=
  let need := if v.required then "required" else "optional"
  let behavior := match v.failureBehavior with
    | .mustSucceed => "must succeed"
    | .allowedToFail => "allowed to fail"
  "# " ++ name ++ ": " ++ need ++ ", " ++ behavior ++ ", re-check every " ++
    toString v.recheckPeriod.seconds ++ "s\n"

/-- The general settings of a policy on one line. -/
def Policy.line (p : Policy) : String :=
  "# default re-check period: " ++ toString p.defaultRecheckPeriod.seconds ++
    "s, certificate failure threshold: " ++ toString p.maxValidationFailures.toNat ++ "\n"

/-- A configuration with its source and the policies that it comes to. -/
def Policy.summary (p : Policy) (config : Config) (source : ConfigSource) : String :=
  "# source: " ++ source.text ++ "\n" ++ config.text ++ "\n" ++ p.line ++
    String.join (p.validators.entries.map fun e => e.2.line e.1)

namespace Command

variable {m : Type → Type} [Monad m]

/-- Checks a configuration and prints what it comes to. -/
def checkConfig (h : Host m) (config : Config) (source : ConfigSource) : Attempt m Unit := do
  let policy ← require (.refusedConfig "Configuration is invalid") (Policy.ofConfig config)
  ExceptT.lift (h.print (policy.summary config source))

end Command

end Admission
