import Admission.Files.Error
import Admission.Telemetry

/-!
What a command needs of the machine that it runs on: files, variables of the environment, a clock, a
log, metrics and an output. Each service is an action.
-/

namespace Admission

/-- The services of a machine. -/
structure Host (m : Type → Type) where
  read : String → m (Except FileError ByteArray)
  write : String → ByteArray → m (Except FileError Unit)
  remove : String → m (Except FileError Unit)
  createDirectories : String → m (Except FileError Unit)
  isFile : String → m Bool
  setting? : String → m (Option String)
  now : m Instant
  log : LogEntry → m Unit
  record : Metric → m Unit
  recorded : m (List Metric)
  print : String → m Unit

/-- Logs each entry of a list. -/
def Host.logAll {m : Type → Type} [Monad m] (h : Host m) : List LogEntry → m Unit
  | [] => return ()
  | e :: rest => do
    h.log e
    h.logAll rest

/-- Records the metric of a report and logs its entries. -/
def Host.report {m : Type → Type} [Monad m] (h : Host m) (t : Telemetry) : m Unit := do
  h.record t.metric
  h.logAll t.logs

end Admission
