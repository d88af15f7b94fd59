import AttemptLog.Json.Value
import AttemptLog.Keyed
import AttemptLog.Text.Class
/-!
Responses: what a learner filled into the form of a question, as a map from field names to values.

Responses are compared as maps, so the order in which a client sent its fields does not count.
-/
namespace AttemptLog

/-- the submitted fields of one step -/
abbrev Response := Keyed String

namespace Response

/-- does no field hold more than white space -/
def isBlank (response : Response) : Bool :=
  response.values.all fun value => value.toList.all Text.isBlank

/-- the response as an object with the fields in order of their names -/
def toJson (response : Response) : Json.Value :=
  .object (response.entries.map fun entry => (entry.1, .string entry.2))

end Response

end AttemptLog
