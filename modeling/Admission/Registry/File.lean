import Admission.Codec.Snapshot
import Admission.Host
import Admission.Json.Parser
import Admission.Json.Printer
import Admission.Registry.Error

/-!
Registry snapshots in files.
-/

namespace Admission.Snapshot

variable {m : Type → Type} [Monad m]

/-- Reads the content of a snapshot file. -/
def ofBytes? (content : ByteArray) : Option Snapshot := do
  ofJson? (← Json.parseContent? content)

/-- The content of a snapshot file. -/
def toBytes (s : Snapshot) : ByteArray := s.toJson.pretty.toUTF8

/-- Loads a snapshot from a file. -/
def load (h : Host m) (path : String) : m (Except RegistryError Snapshot) := do
  match ← h.read path with
  | .error e => return .error (.snapshot (.unreadable path e.message))
  | .ok content =>
    match ofBytes? content with
    | none => return .error (.snapshot (.malformed path))
    | some s => return .ok s

/-- Saves a snapshot to a file. -/
def save (h : Host m) (path : String) (s : Snapshot) : m (Except RegistryError Unit) := do
  match ← h.write path s.toBytes with
  | .error e => return .error (.snapshot (.unwritable path e.message))
  | .ok () => return .ok ()

end Admission.Snapshot
