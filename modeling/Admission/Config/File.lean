import Admission.Codec.ConfigText
import Admission.Config.Placeholder
import Admission.Files.Path
import Admission.Host

/-!
Where the configuration comes from: a file that is named, or that a variable of the environment
names, or the first that is found in the usual places, or else the defaults.
-/

namespace Admission

/-- Why a configuration cannot be loaded. -/
inductive LoadError where
  | unreadable (path : String) (reason : FileError)
  | unsupportedFormat (extension : String)
  | substitution (cause : UnsetVariable)
  | invalid (path : String) (reason : ConfigError)
deriving DecidableEq

/-- Where a configuration was found. -/
inductive ConfigSource where
  | file (path : String)
  | defaults
deriving DecidableEq, Repr

namespace LoadError

/-- The error in a sentence. -/
def message : LoadError → String
  | unreadable path reason =>
    "Failed to read configuration file " ++ path ++ ": " ++ reason.message
  | unsupportedFormat extension =>
    "Unsupported configuration format: ." ++ extension ++ " (expected .toml)"
  | substitution cause => "Environment substitution failed: " ++ cause.message
  | invalid path reason => "Invalid configuration in " ++ path ++ ": " ++ reason.message

/-- The messages of what lies behind the error, from the outermost inwards. -/
def causes : LoadError → List String
  | unreadable _ reason => [reason.message]
  | unsupportedFormat _ => []
  | substitution _ => []
  | invalid _ .malformed => [ConfigError.malformed.message]
  | invalid _ (.refused reason) => [(ConfigError.refused reason).message, reason.message]

/-- The name of the kind of error. -/
def kind : LoadError → String
  | unreadable .. => "Read"
  | unsupportedFormat _ => "UnsupportedFormat"
  | substitution _ => "EnvSubstitution"
  | invalid .. => "Invalid"

end LoadError

namespace Config

variable {m : Type → Type} [Monad m]

/-- The variable that names a configuration file. -/
def fileVariable : String := "GATEHOUSE_CONFIG"

/-- The directory of the user's configurations, from the values of the variables for it and for the
    user's home. The first counts only if it is a path from the root. -/
def userDirectory? (config home : Option String) : Option String :=
  match config.filter (·.toList.head? == some '/') with
  | some directory => some directory
  | none => (home.filter (!·.isEmpty)).map (Path.join · ".config")

/-- The usual places of the configuration, given the directory of the user's. -/
def searchPathsIn (directory : Option String) : List String :=
  ["./gatehouse.toml"] ++
    (directory.map fun d => Path.join (Path.join d "gatehouse") "config.toml").toList ++
    ["/etc/gatehouse/config.toml"]

/-- The usual places of the configuration. -/
def searchPaths (h : Host m) : m (List String) := do
  let config ← h.setting? "XDG_CONFIG_HOME"
  let home ← h.setting? "HOME"
  return searchPathsIn (userDirectory? config home)

/-- The first of the paths that leads to a file. -/
def findFile (h : Host m) : List String → m (Option String)
  | [] => return none
  | path :: rest => do
    if ← h.isFile path then return some path
    findFile h rest

/-- The values of variables. -/
def lookUp (h : Host m) : List String → m (List (String × Option String))
  | [] => return []
  | name :: rest => do
    let value ← h.setting? name
    return (name, value) :: (← lookUp h rest)

/-- Puts the values of variables in for the placeholders of a text. -/
def fillIn (h : Host m) (text : String) : m (Except UnsetVariable String) := do
  let values ← lookUp h (Placeholder.names text.toList)
  return (Placeholder.substitute (fun name => (values.lookup name).join) text.toList).map
    String.ofList

/-- Loads a configuration from a file, whose name has to end in '.toml' or have no extension. -/
def loadFile (h : Host m) (path : String) : m (Except LoadError Config) := do
  match (Path.extension? path).filter (· != "toml") with
  | some extension => return .error (.unsupportedFormat extension)
  | none =>
    match ← h.read path with
    | .error e => return .error (.unreadable path e)
    | .ok content =>
      match String.fromUTF8? content with
      | none => return .error (.unreadable path .notText)
      | some text =>
        match ← fillIn h text with
        | .error e => return .error (.substitution e)
        | .ok text => return (ofText text).mapError (.invalid path)

/-- The file to load, if there is one. -/
def chooseFile (h : Host m) (paths : List String) (explicit : Option String) :
    m (Option String) := do
  match explicit with
  | some path => return some path
  | none =>
    match ← h.setting? fileVariable with
    | some path => return some path
    | none => findFile h paths

/-- Loads the configuration. -/
def load (h : Host m) (paths : List String) (explicit : Option String) :
    m (Except LoadError (Config × ConfigSource)) := do
  match ← chooseFile h paths explicit with
  | none => return .ok (Config.default, .defaults)
  | some path => return (← loadFile h path).map (·, .file path)

end Config

end Admission
