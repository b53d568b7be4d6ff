import Admission.Registry.Error

/-!
Why a reconciliation fails.
-/

namespace Admission

/-- Errors of a reconciliation. -/
inductive ReconcileError where
  | validationSetNotFound (id : Uuid)
  | packageNotFound (id version : String)
  | registry (source : RegistryError)
  | storage (source : StorageError)
  | publish (package : String) (source : RegistryError)
  | scheduler (source : SchedulerError)
  | beyondLastInstant
deriving DecidableEq

namespace ReconcileError

def message : ReconcileError → String
  | validationSetNotFound id => "Validation set not found: " ++ id.text
  | packageNotFound id version => "Package not found: " ++ id ++ " " ++ version
  | registry source => "Registry error: " ++ source.message
  | storage source => "Package storage error: " ++ source.message
  | publish package source =>
    "Publishing " ++ package ++ " failed and was rolled back: " ++ source.message
  | scheduler source => "Scheduling error: " ++ source.message
  | beyondLastInstant => "Re-check time out of range"

/-- The message of what lies behind the error, if that has one of its own. -/
def sourceMessage? : ReconcileError → Option String
  | registry source => some source.message
  | storage source => some source.message
  | publish _ source => some source.message
  | scheduler source => some source.message
  | _ => none

end ReconcileError

end Admission
