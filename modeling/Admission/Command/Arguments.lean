import Admission.Command.Certificate
import Admission.Command.Reconcile

/-!
The command line: general options, the name of a command, and the options of the command, among
which general ones may stand as well. An option is given once at most on either side of the name.
-/

namespace Admission

/-- A command with what it is given. -/
inductive CommandChoice where
  | reconcile (args : ReconcileArguments)
  | certificate (args : CertificateArguments)
  | checkConfig
deriving DecidableEq

/-- A command line that has been understood. -/
structure CommandLine where
  config : Option String
  verbose : Bool
  metricsOut : Option String
  command : CommandChoice
deriving DecidableEq

namespace CommandLine

/-- Options that are given, with their values; the value of a switch is empty. -/
abbrev Given := List (String × String)

/-- The general options that take a value. -/
def generalOptions : List String := ["--config", "--metrics-out"]

/-- The general option that takes none. -/
def verboseSwitch : String := "--verbose"

/-- Whether an argument can be the value of the option before it. -/
def isValue (argument : String) : Bool :=
  match argument.toList with
  | ['-'] => true
  | '-' :: _ => false
  | _ => true

/-- An option with an equals sign and a value. -/
def assignment? (argument : String) : Option (String × String) :=
  let cs := argument.toList
  match cs.takeWhile (· != '='), cs.dropWhile (· != '=') with
  | name, _ :: value => some (String.ofList name, String.ofList value)
  | _, [] => none

/-- Reads options as long as there are any. Answers them with what comes after, which starts with
    an argument that is no option or is empty. -/
def readOptions (valued : List String) : List String → Option (Given × List String)
  | [] => some ([], [])
  | argument :: rest =>
    if argument == "-v" || argument == verboseSwitch then
      (readOptions valued rest).map fun r => ((verboseSwitch, "") :: r.1, r.2)
    else if valued.contains argument then
      match rest with
      | value :: rest =>
        if isValue value then (readOptions valued rest).map fun r => ((argument, value) :: r.1, r.2)
        else none
      | [] => none
    else match assignment? argument with
      | some (name, value) =>
        if valued.contains name then
          (readOptions valued rest).map fun r => ((name, value) :: r.1, r.2)
        else if isValue argument then some ([], argument :: rest)
        else none
      | none => if isValue argument || argument == "--" then some ([], argument :: rest) else none

/-- The options of one side of the name, none of them twice. -/
def readSide (valued : List String) (arguments : List String) : Option (Given × List String) := do
  let (given, rest) ← readOptions valued arguments
  if (given.map (·.1)).Nodup then some (given, rest) else none

/-- The value of an option as a path, which is not empty. -/
def path? (given : Given) (name : String) : Option String :=
  (given.lookup name).filter (!·.isEmpty)

/-- A whole number of 64 bits with an optional sign. -/
def int64? (text : String) : Option Int64 :=
  let (sign, digits) : Int × List Char := match text.toList with
    | '-' :: ds => (-1, ds)
    | '+' :: ds => (1, ds)
    | ds => (1, ds)
  if !digits.isEmpty && digits.all Char.isDigit then
    Codec.ofInt64? (sign * Text.decimalValue digits)
  else none

/-- An option with a value that is a path, if it is given. -/
def optionalPath? (given : Given) (name : String) : Option (Option String) :=
  match given.lookup name with
  | none => some none
  | some _ => (path? given name).map some

/-- An option with a value that is a path, or the path that holds if it is not given. -/
def pathOr? (given : Given) (name default : String) : Option String := do
  return (← optionalPath? given name).getD default

/-- The options of the command that reconciles. -/
def reconcileOptions : List String :=
  ["--snapshot", "--tracking-id", "--validation-dir", "--public-dir"]

/-- Reads the options of the command that reconciles. -/
def reconcileArguments? (given : Given) : Option ReconcileArguments := do
  return {
    snapshot := ← path? given "--snapshot"
    trackingId := ← (given.lookup "--tracking-id").bind Uuid.ofText?
    store := {
      validation := ← pathOr? given "--validation-dir" "./validation"
      published := ← pathOr? given "--public-dir" "./public" } }

/-- The options of the command that saves a verification result. -/
def certificateOptions : List String :=
  ["--snapshot", "--certificate-key", "--attempt-id", "--result", "--revoked-at"]

/-- Reads the options of the command that saves a verification result. -/
def certificateArguments? (given : Given) : Option CertificateArguments := do
  return {
    snapshot := ← path? given "--snapshot"
    certificate := ← (given.lookup "--certificate-key").bind int64?
    attempt := ← (given.lookup "--attempt-id").bind Uuid.ofText?
    result := ← (given.lookup "--result").bind ResultChoice.ofText?
    revokedAt := given.lookup "--revoked-at" }

/-- The options of the command of that name. -/
def optionsOf? : String → Option (List String)
  | "reconcile" => some reconcileOptions
  | "certificate" => some certificateOptions
  | "check-config" => some []
  | _ => none

/-- The command of that name with its options. -/
def command? (name : String) (given : Given) : Option CommandChoice :=
  match name with
  | "reconcile" => (reconcileArguments? given).map .reconcile
  | "certificate" => (certificateArguments? given).map .certificate
  | "check-config" => some .checkConfig
  | _ => none

/-- The value of a general option: what is given with the command goes before what is given in
    front of it, and both go before the default. A side without the option takes the default, which
    then must not be empty. -/
def general? (front back : Given) (default : Option String) (name : String) :
    Option (Option String) := do
  let inFront ← optionalPath? front name
  let inBack ← optionalPath? back name
  if default == some "" && (inFront.isNone || inBack.isNone) then none
  return inBack <|> inFront <|> default

/-- Understands a command line, given the value of the variable for the configuration file. -/
def ofArguments? (configVariable : Option String) (arguments : List String) :
    Option CommandLine := do
  let (front, rest) ← readSide generalOptions arguments
  let name :: rest := rest | none
  let (back, rest) ← readSide (generalOptions ++ (← optionsOf? name)) rest
  if rest != [] && rest != ["--"] then none
  return {
    config := ← general? front back configVariable "--config"
    verbose := ((front ++ back).lookup verboseSwitch).isSome
    metricsOut := ← general? front back none "--metrics-out"
    command := ← command? name back }

end CommandLine

end Admission
