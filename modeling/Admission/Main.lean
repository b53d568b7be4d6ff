import Admission.Command.Run
import Admission.Time.Seconds
import Std.Time.DateTime.Timestamp

/-!
The program. It runs its command line on the machine that it finds itself on; log entries go to the
error output, those for debugging only if the command line asks for more.
-/

namespace Admission

/-- An error of the system as one of files. Codes may come with either sign. -/
def FileError.ofSystem (e : IO.Error) : FileError :=
  let ofCode (code : UInt32) (otherwise : FileError) : FileError :=
    if code == 20 || code == -20 then .notDirectory
    else if code == 21 || code == -21 then .isDirectory
    else if code == 36 || code == -36 then .nameTooLong
    else otherwise
  match e with
  | .noFileOrDirectory .. => .missing
  | .alreadyExists .. => .present
  | .inappropriateType _ code _ => ofCode code (.other (toString e))
  | .invalidArgument _ code _ => ofCode code (.other (toString e))
  | .resourceExhausted _ code _ => ofCode code (.other (toString e))
  | e => .other (toString e)

/-- The value of a field in a line of the log. -/
def LogValue.written : LogValue → String
  | .text s => s
  | .count n => toString n
  | .flag b => toString b
  | .seconds d => d.secondsText

/-- An entry as a line of the log. -/
def LogEntry.line (e : LogEntry) : String :=
  e.level.text ++ " " ++ e.message ++
    String.join (e.fields.map fun f => " " ++ f.1 ++ "=" ++ f.2.written)

namespace ThisMachine

/-- The result of an action on files, failed or not. -/
def tried {α : Type} (act : IO α) : IO (Except FileError α) := do
  try
    return .ok (← act)
  catch e =>
    return .error (.ofSystem e)

/-- The time by the clock of the system. -/
def clock : IO Instant := do
  let now ← Std.Time.Timestamp.now
  return (Instant.epoch.add? ⟨now.toNanosecondsSinceUnixEpoch.val⟩).getD .epoch

/-- Whether a path leads to a file. -/
def isFile (path : String) : IO Bool := do
  let place := (← IO.currentDir) / path
  match ← tried place.metadata with
  | .ok found => return found.type == .file
  | .error _ => return false

/-- The services of the system. What is recorded is kept in a reference. -/
def host (records : IO.Ref (List Metric)) (verbose : Bool) : Host IO where
  read path := tried (IO.FS.readBinFile path)
  write path content := tried (IO.FS.writeBinFile path content)
  remove path := tried (IO.FS.removeFile path)
  createDirectories path := if path.isEmpty then return .ok () else tried (IO.FS.createDirAll path)
  isFile := isFile
  setting? name := IO.getEnv name
  now := clock
  log e := if verbose || e.level != .debug then IO.eprintln e.line else return ()
  record r := records.modify (· ++ [r])
  recorded := records.get
  print text := do
    let output ← IO.getStdout
    output.putStr text
    output.flush

end ThisMachine

end Admission

/-- Runs the command line and tells on the error output why it failed, if it did. -/
def main (arguments : List String) : IO UInt32 := do
  let records ← IO.mkRef ([] : List Admission.Metric)
  let exit ← Admission.Command.run (Admission.ThisMachine.host records) arguments
  match exit with
  | .success => return exit.code
  | .notUnderstood =>
    IO.eprintln "usage: gatehousectl [OPTIONS] reconcile|certificate|check-config [OPTIONS]"
    return exit.code
  | .failure e =>
    IO.eprint e.report
    return exit.code
