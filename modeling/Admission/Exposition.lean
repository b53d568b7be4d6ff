import Admission.Telemetry

/-!
Recorded metrics as a text for collectors: for each counter a line with its type, a line for each
set of labels with the count, and an empty line. Lengths of time are not part of it.
-/

namespace Admission.Exposition

/-- What tells one count from another: the name of the counter and its labels. -/
abbrev Series := String × List (String × String)

/-- The series of the counters among recordings, one for each increment. -/
def increments (records : List Metric) : List Series :=
  records.filterMap fun r =>
    match r.measure with
    | .increment => some (r.name, r.labels)
    | .duration _ => none

/-- The labels of a series between braces; nothing if there are none. -/
def labelText : List (String × String) → String
  | [] => ""
  | labels =>
    "\x7b" ++ ",".intercalate (labels.map fun l => l.1 ++ "=\"" ++ l.2 ++ "\"") ++ "\x7d"

/-- The line of a series. -/
def seriesLine (all : List Series) (s : Series) : String :=
  s.1 ++ labelText s.2 ++ " " ++ toString (all.count s) ++ "\n"

/-- The lines of a counter. -/
def counterText (all : List Series) (name : String) : String :=
  "# TYPE " ++ name ++ " counter\n" ++
    String.join ((all.filter (·.1 == name)).eraseDups.map (seriesLine all)) ++ "\n"

/-- The text of the counters among recordings. -/
def text (records : List Metric) : String :=
  let all := increments records
  String.join ((all.map (·.1)).eraseDups.map (counterText all))

end Admission.Exposition
