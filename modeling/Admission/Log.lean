import Admission.Time.Duration

/-!
Log entries: a level, a message, and fields by name.
-/

namespace Admission

/-- How much an entry matters. -/
inductive LogLevel where
  | debug
  | info
  | warn
  | error
deriving DecidableEq, Repr

/-- The word for a level. -/
def LogLevel.text : LogLevel → String
  | .debug => "DEBUG"
  | .info => "INFO"
  | .warn => "WARN"
  | .error => "ERROR"

/-- The value of a field. -/
inductive LogValue where
  | text (s : String)
  | count (n : Nat)
  | flag (b : Bool)
  | seconds (d : Duration)
deriving DecidableEq

/-- One entry of the log. -/
structure LogEntry where
  level : LogLevel
  message : String
  fields : List (String × LogValue)
deriving DecidableEq

namespace LogEntry

def debug (message : String) (fields : List (String × LogValue)) : LogEntry :=
  ⟨.debug, message, fields⟩

def info (message : String) (fields : List (String × LogValue)) : LogEntry :=
  ⟨.info, message, fields⟩

def warn (message : String) (fields : List (String × LogValue)) : LogEntry :=
  ⟨.warn, message, fields⟩

def error (message : String) (fields : List (String × LogValue)) : LogEntry :=
  ⟨.error, message, fields⟩

end LogEntry

end Admission
