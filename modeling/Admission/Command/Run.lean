import Admission.Command.Arguments
import Admission.Command.CheckConfig
import Admission.Exposition

/-!
Running a command line: the configuration is loaded, the command runs, and the metrics are written
if that is asked for, whether or not the command succeeded.
-/

namespace Admission

/-- How a run ends. -/
inductive Exit where
  | success
  | notUnderstood
  | failure (e : CommandError)
deriving DecidableEq

/-- The number that a run ends with. -/
def Exit.code : Exit → UInt32
  | success => 0
  | notUnderstood => 2
  | failure _ => 1

namespace Command

variable {m : Type → Type} [Monad m]

/-- The entry that tells where the configuration is from. -/
def sourceLog : ConfigSource → LogEntry
  | .file path => .debug "Loaded configuration" [("path", .text path)]
  | .defaults => .debug "No configuration file found, using defaults" []

/-- Runs a command. -/
def runChoice (h : Host m) (config : Config) (source : ConfigSource) :
    CommandChoice → Attempt m Unit
  | .reconcile args => do
    let _ ← reconcile h config args
  | .certificate args => certificate h config args
  | .checkConfig => checkConfig h config source

/-- Writes what has been recorded to a file. -/
def writeMetrics (h : Host m) (path : String) : Attempt m Unit := do
  let records ← ExceptT.lift h.recorded
  attempt (.writeMetrics path) (h.write path (Exposition.text records).toUTF8)

/-- Runs a command line that has been understood. -/
def runLine (h : Host m) (line : CommandLine) : Attempt m Unit := do
  let paths ← ExceptT.lift (Config.searchPaths h)
  let (config, source) ← attempt .loadConfig (Config.load h paths line.config)
  ExceptT.lift (h.log (sourceLog source))
  let result ← ExceptT.lift (runChoice h config source line.command).run
  if let some path := line.metricsOut then writeMetrics h path
  require id result

/-- Runs a command line on a machine, which logs more if the line asks for it. -/
def run (host : Bool → Host m) (arguments : List String) : m Exit := do
  match CommandLine.ofArguments? (← (host false).setting? Config.fileVariable) arguments with
  | none => return .notUnderstood
  | some line =>
    match ← (runLine (host line.verbose) line).run with
    | .ok () => return .success
    | .error e => return .failure e

end Command

end Admission
