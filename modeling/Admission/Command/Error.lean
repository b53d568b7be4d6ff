import Admission.Config.File
import Admission.Reconcile.Error
import Admission.Trust.Propagation

/-!
Why a command fails, and how that is told: a chain of messages, from what the command was doing down
to the cause.
-/

namespace Admission

/-- Errors of commands. -/
inductive CommandError where
  | loadConfig (reason : LoadError)
  | refusedConfig (purpose : String) (reason : ConfigRefusal)
  | revocationTime (text : String)
  | revocationTimeMissing
  | revocationTimeUnexpected
  | loadSnapshot (path : String) (reason : RegistryError)
  | saveSnapshot (path : String) (reason : RegistryError)
  | saveResult (reason : TrustError)
  | noPendingAttempt (certificate : CertificateKey) (id : Uuid)
  | unknownSet (id : Uuid)
  | reconciliation (reason : ReconcileError)
  | writeMetrics (path : String) (reason : FileError)
deriving DecidableEq

namespace CommandError

/-- The message of the error and those of its causes, from the outermost inwards. -/
def chain : CommandError → String × List String
  | loadConfig reason =>
    ("Failed to load gatehouse configuration", reason.message :: reason.causes)
  | refusedConfig purpose reason =>
    (purpose, [(ConfigError.refused reason).message, reason.message])
  | revocationTime text => ("Invalid revocation time: " ++ text, [])
  | revocationTimeMissing => ("--revoked-at is required for a revoked result", [])
  | revocationTimeUnexpected => ("--revoked-at only applies to a revoked result", [])
  | loadSnapshot path reason => ("Failed to load snapshot " ++ path, [reason.message])
  | saveSnapshot path reason => ("Failed to save snapshot " ++ path, [reason.message])
  | saveResult reason =>
    ("Failed to save certificate result", [reason.message, reason.sourceMessage])
  | noPendingAttempt certificate id =>
    ("No pending validation " ++ id.text ++ " for certificate " ++ toString certificate.toInt, [])
  | unknownSet id => ("No validation set with tracking id " ++ id.text, [])
  | reconciliation reason =>
    ("Reconciliation failed", reason.message :: reason.sourceMessage?.toList)
  | writeMetrics path reason => ("Failed to write metrics to " ++ path, [reason.message])

/-- A message with the later of its lines indented. -/
def indented (indentation : Nat) (message : String) : String :=
  String.ofList (message.toList.flatMap fun c =>
    if c == '\n' then '\n' :: List.replicate indentation ' ' else [c])

/-- The causes of an error one after another, numbered from the given number on. -/
def numbered (n : Nat) : List String → String
  | [] => ""
  | cause :: rest =>
    let number := toString n
    "\n" ++ "".pushn ' ' (5 - number.length) ++ number ++ ": " ++ indented 7 cause ++
      numbered (n + 1) rest

/-- The error as it is reported: its message, and its causes, which are numbered if there are
    several. -/
def report (e : CommandError) : String :=
  let (message, causes) := e.chain
  let told := match causes with
    | [] => ""
    | [cause] => "\n\nCaused by:\n    " ++ indented 4 cause
    | causes => "\n\nCaused by:" ++ numbered 0 causes
  "Error: " ++ message ++ told ++ "\n"

end CommandError

end Admission
