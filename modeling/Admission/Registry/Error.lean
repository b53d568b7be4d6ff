import Admission.Model.Certificate

/-!
What can go wrong at the boundaries of the library: in the registry, in the package file store, in
the queue and with notifications. Each error is told by its cause and put into words by 'message'.
-/

namespace Admission

/-- Why a change to the registry does not fit what is in it. -/
inductive Conflict where
  | attemptHasResult (id : Uuid)
  | attemptMissing (id : Uuid)
  | signatureMissing (key : Int64)
  | other (text : String)
deriving DecidableEq

/-- Why a snapshot cannot be loaded or saved. -/
inductive SnapshotFault where
  | unreadable (path reason : String)
  | malformed (path : String)
  | unwritable (path reason : String)
  | other (text : String)
deriving DecidableEq

/-- Errors of a registry. -/
inductive RegistryError where
  | packageNotFound (id version : String)
  | certificateNotFound (key : CertificateKey)
  | conflict (cause : Conflict)
  | snapshot (fault : SnapshotFault)
  | backend (text : String)
deriving DecidableEq

/-- Errors of a package file store. -/
inductive StorageError where
  | notFound (id version : String)
  | io (id version reason : String)
deriving DecidableEq

/-- A re-check message could not be put into the queue. -/
structure SchedulerError where
  trackingId : Uuid
  reason : String
deriving DecidableEq

/-- A notification could not be delivered. -/
structure NotifierError where
  reason : String
deriving DecidableEq

def Conflict.message : Conflict → String
  | attemptHasResult id => "certificate validation " ++ id.text ++ " already has a result"
  | attemptMissing id => "certificate validation " ++ id.text ++ " does not exist"
  | signatureMissing key => "signature " ++ toString key.toInt ++ " does not exist"
  | other text => text

def SnapshotFault.message : SnapshotFault → String
  | unreadable path reason => "failed to read " ++ path ++ ": " ++ reason
  | malformed path => "failed to parse " ++ path
  | unwritable path reason => "failed to write " ++ path ++ ": " ++ reason
  | other text => text

namespace RegistryError

def message : RegistryError → String
  | packageNotFound id version => "Package not found: " ++ id ++ " " ++ version
  | certificateNotFound key => "Certificate not found: " ++ toString key.toInt
  | conflict cause => "Concurrent modification detected: " ++ cause.message
  | snapshot fault => "Snapshot error: " ++ fault.message
  | backend text => "Registry backend error: " ++ text

/-- The name of the kind of error. -/
def kind : RegistryError → String
  | packageNotFound .. => "PackageNotFound"
  | certificateNotFound _ => "CertificateNotFound"
  | conflict _ => "Conflict"
  | snapshot _ => "Snapshot"
  | backend _ => "Backend"

end RegistryError

namespace StorageError

def message : StorageError → String
  | notFound id version => "Package file not found: " ++ id ++ " " ++ version
  | io id version reason =>
    "Package file operation failed for " ++ id ++ " " ++ version ++ ": " ++ reason

/-- The name of the kind of error. -/
def kind : StorageError → String
  | notFound .. => "NotFound"
  | io .. => "Io"

end StorageError

def SchedulerError.message (e : SchedulerError) : String :=
  "Failed to enqueue re-check for " ++ e.trackingId.text ++ ": " ++ e.reason

def NotifierError.message (e : NotifierError) : String :=
  "Failed to deliver notification: " ++ e.reason

end Admission
