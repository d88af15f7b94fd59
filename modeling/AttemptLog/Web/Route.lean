import AttemptLog.Text.Digits
/-!
Paths: the routes of the service, and the labels under which requests are counted.

A request is counted under the template of its route. A path without a route is counted as it stands, with segments
that look like identities masked.
-/
namespace AttemptLog.Web

/-- the routes; an identity is as it stands in the path -/
inductive Route where
  | health
  | metrics
  | attempts
  | attempt (id : String)
  | steps (id : String)
  | autosave (id : String)
  | grade (id : String)
  deriving DecidableEq

def segments (path : String) : List String := (path.toList.splitOn '/').map String.ofList

/-- the path with these segments -/
def joined (segments : List String) : String := "/".intercalate segments

namespace Route

/-- the route of a path; segments are never empty -/
def ofPath? (path : String) : Option Route :=
  match segments path with
  | ["", "health"] => some .health
  | ["", "metrics"] => some .metrics
  | ["", "api", "v1", "attempts"] => some .attempts
  | ["", "api", "v1", "attempts", id] => if id = "" then none else some (.attempt id)
  | ["", "api", "v1", "attempts", id, "steps"] => if id = "" then none else some (.steps id)
  | ["", "api", "v1", "attempts", id, "autosave"] => if id = "" then none else some (.autosave id)
  | ["", "api", "v1", "attempts", id, "grade"] => if id = "" then none else some (.grade id)
  | _ => none

/-- the path of a route with its identity left open -/
def template : Route → String
  | .health => "/health"
  | .metrics => "/metrics"
  | .attempts => "/api/v1/attempts"
  | .attempt _ => "/api/v1/attempts/\x7bid\x7d"
  | .steps _ => "/api/v1/attempts/\x7bid\x7d/steps"
  | .autosave _ => "/api/v1/attempts/\x7bid\x7d/autosave"
  | .grade _ => "/api/v1/attempts/\x7bid\x7d/grade"

/-- does the route give something, or is something handed in there -/
def isRead : Route → Bool
  | .health | .metrics | .attempt _ => true
  | .attempts | .steps _ | .autosave _ | .grade _ => false

def methods (route : Route) : List String := if route.isRead then ["GET", "HEAD"] else ["POST"]

/-- the methods of a route as replies list them -/
def allow (route : Route) : String := ",".intercalate route.methods

end Route

/-- is this a text of thirty-six hexadecimal digits and hyphens -/
def isUuidLike (segment : String) : Bool :=
  segment.utf8ByteSize == 36 && segment.toList.all fun c => Text.isHexDigit c || c == '-'

/-- is this a text of twenty-four hexadecimal digits -/
def isObjectId (segment : String) : Bool := segment.utf8ByteSize == 24 && segment.toList.all Text.isHexDigit

/-- is this a number -/
def isNumericId (segment : String) : Bool := segment != "" && segment.toList.all Char.isDigit

/-- a segment, or a mark in its place if it looks like an identity -/
def maskSegment (segment : String) : String :=
  if isUuidLike segment || isObjectId segment || isNumericId segment then "\x7bid\x7d" else segment

/-- a path with the segments that look like identities masked -/
def maskPath (path : String) : String := joined ((segments path).map maskSegment)

def pathLabel (path : String) : String :=
  match Route.ofPath? path with
  | some route => route.template
  | none => maskPath path

end AttemptLog.Web
