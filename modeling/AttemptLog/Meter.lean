import AttemptLog.Step
/-!
Counting what happens.

A meter is the list of all that was counted. Its text has one line for each family of counts and each combination of
labels that was counted, in the exposition format of monitoring systems. Durations are not part of the model: of a
histogram only the number of observations is kept.
-/
namespace AttemptLog

inductive Count where
  /-- an attempt began -/
  | started
  /-- a step was stored -/
  | recorded (isDraft : Bool)
  /-- a draft was handed in -/
  | autosaved (outcome : Outcome)
  /-- a submission met another last step -/
  | conflict (submission : String)
  /-- a request was answered -/
  | request (method path : String) (status : Nat)
  /-- the database worked on a collection -/
  | database (operation collection : String) (isOk : Bool)
  deriving DecidableEq

inductive Family where
  | recordedSteps
  | startedAttempts
  | autosaves
  | operationSeconds
  | operations
  | requestSeconds
  | requests
  | conflicts
  deriving DecidableEq

namespace Family

/-- all families in order of their names -/
def all : List Family :=
  [.recordedSteps, .startedAttempts, .autosaves, .operationSeconds, .operations, .requestSeconds, .requests, .conflicts]

def name : Family → String
  | .recordedSteps => "attempt_steps_recorded_total"
  | .startedAttempts => "attempts_started_total"
  | .autosaves => "autosave_outcomes_total"
  | .operationSeconds => "db_operation_duration_seconds"
  | .operations => "db_operations_total"
  | .requestSeconds => "http_request_duration_seconds"
  | .requests => "http_requests_total"
  | .conflicts => "step_conflicts_total"

def help : Family → String
  | .recordedSteps => "Total number of steps written to attempt logs"
  | .startedAttempts => "Total number of question attempts started"
  | .autosaves => "Autosave requests by reconciliation outcome"
  | .operationSeconds => "Database operation duration in seconds"
  | .operations => "Total number of database operations"
  | .requestSeconds => "HTTP request duration in seconds"
  | .requests => "Total number of HTTP requests"
  | .conflicts => "Step writes rejected because the log changed concurrently"

/-- the upper bounds of the buckets of a histogram; other families have none -/
def bounds : Family → Option (List String)
  | .operationSeconds => some ["0.001", "0.005", "0.01", "0.025", "0.05", "0.1", "0.25", "0.5", "1", "+Inf"]
  | .requestSeconds =>
    some ["0.001", "0.005", "0.01", "0.025", "0.05", "0.1", "0.25", "0.5", "1", "2.5", "5", "10", "+Inf"]
  | _ => none

/-- the lines that introduce a family -/
def header (family : Family) : List String :=
  ["# HELP " ++ family.name ++ " " ++ family.help,
    "# TYPE " ++ family.name ++ (if family.bounds.isSome then " histogram" else " counter")]

end Family

/-- names and values of labels, in order of the names -/
abbrev Labels := List (String × String)

/-- a label's value with quotes, backslashes and line ends escaped -/
def escapedLabel (value : String) : String :=
  String.ofList (value.toList.flatMap fun c =>
    if c = '\\' then ['\\', '\\'] else if c = '\n' then ['\\', 'n'] else if c = '"' then ['\\', '"'] else [c])

/-- labels between braces; nothing if there are none -/
def Labels.render (labels : Labels) : String :=
  if labels.isEmpty then ""
  else
    let parts := labels.map fun (name, value) => name ++ "=\"" ++ escapedLabel value ++ "\""
    "\x7b" ++ ",".intercalate parts ++ "\x7d"

/-- one count of a family -/
abbrev Series := Family × Labels

/-- the series that go up by one when something is counted -/
def Count.series : Count → List Series
  | .started => [(.startedAttempts, [])]
  | .recorded isDraft => [(.recordedSteps, [("kind", if isDraft then "autosave" else "real")])]
  | .autosaved outcome => [(.autosaves, [("outcome", spelling outcome)])]
  | .conflict submission => [(.conflicts, [("operation", submission)])]
  | .request method path status =>
    [(.requests, [("method", method), ("path", path), ("status", toString status)]),
      (.requestSeconds, [("method", method), ("path", path)])]
  | .database operation collection isOk =>
    [(.operations, [("collection", collection), ("operation", operation),
        ("status", if isOk then "success" else "error")]),
      (.operationSeconds, [("collection", collection), ("operation", operation)])]

/-- all that was counted -/
abbrev Meter := List Count

namespace Meter

def value (meter : Meter) (count : Count) : Nat := meter.count count

def seriesValue (meter : Meter) (series : Series) : Nat := (meter.flatMap Count.series).count series

/-- the series that were counted; the one for attempts is always there -/
def series (meter : Meter) : List Series := ((.startedAttempts, []) :: meter.flatMap Count.series).eraseDups

def seriesLine (meter : Meter) (series : Series) : String :=
  series.1.name ++ (if series.1.bounds.isSome then "_count" else "") ++ series.2.render ++ " " ++
    toString (meter.seriesValue series)

def lines (meter : Meter) : List String :=
  (meter.series.map meter.seriesLine).mergeSort fun a b => decide (a ≤ b)

/-- do the values of the first labels come before those of the second or are they the same -/
def labelsLe : Labels → Labels → Bool
  | a :: as, b :: bs => if a.2 = b.2 then labelsLe as bs else decide (a.2 < b.2)
  | _, _ => true

/-- the lines of a family without values: its introduction and the buckets of each of its histograms -/
def familyShape (meter : Meter) (family : Family) : List String :=
  let found := (meter.series.filter fun series => series.1 = family).map (·.2)
  if found.isEmpty then []
  else
    family.header ++ (found.mergeSort labelsLe).flatMap fun labels =>
      (family.bounds.getD []).map fun bound =>
        family.name ++ "_bucket" ++ Labels.render (labels ++ [("le", bound)])

/-- the lines without values -/
def shape (meter : Meter) : List String := Family.all.flatMap meter.familyShape

end Meter

end AttemptLog
