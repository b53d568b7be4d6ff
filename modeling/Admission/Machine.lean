import Admission.Files.Tree
import Admission.Host

/-!
A machine as a value: a tree of files, an environment, a clock that stands still, and what has been
logged, recorded and printed. Running a command on it shows all that the command does.
-/

namespace Admission

/-- The variables of an environment, each with its value. -/
abbrev Environment := List (String × String)

/-- The value of a variable: what follows the name and an equals sign in the first setting that
    starts with both. -/
def Environment.find? (environment : Environment) (name : String) : Option String :=
  if name.isEmpty then none
  else
    let start := (name ++ "=").toList
    environment.firstM fun s =>
      let setting := (s.1 ++ "=" ++ s.2).toList
      if start.isPrefixOf setting then some (String.ofList (setting.drop start.length)) else none

/-- The state of a machine. -/
structure Machine where
  files : FileTree
  environment : Environment
  clock : Instant
  logs : List LogEntry
  metrics : List Metric
  output : String

namespace Machine

/-- A machine before anything runs on it. -/
def start (files : FileTree) (environment : Environment) (clock : Instant) : Machine :=
  ⟨files, environment, clock, [], [], ""⟩

/-- Changes the files, unless that is refused. -/
def change (act : FileTree → Except FileError FileTree) : StateM Machine (Except FileError Unit) :=
  fun s =>
    match act s.files with
    | .ok files => (.ok (), { s with files })
    | .error e => (.error e, s)

/-- The services of a machine that is a value. -/
def host : Host (StateM Machine) where
  read path := fun s => (s.files.read path, s)
  write path content := change (·.write path content)
  remove path := change (·.remove path)
  createDirectories path := fun s =>
    let (files, result) := s.files.createDirectories path
    (result, { s with files })
  isFile path := fun s => (s.files.isFile path, s)
  setting? name := fun s => (s.environment.find? name, s)
  now := fun s => (s.clock, s)
  log e := fun s => ((), { s with logs := s.logs ++ [e] })
  record r := fun s => ((), { s with metrics := s.metrics ++ [r] })
  recorded := fun s => (s.metrics, s)
  print text := fun s => ((), { s with output := s.output ++ text })

end Machine

end Admission
