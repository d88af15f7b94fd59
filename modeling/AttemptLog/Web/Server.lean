import AttemptLog.Form
import AttemptLog.Service
import AttemptLog.Text.Percent
import AttemptLog.Web.Credential
import AttemptLog.Web.MediaType
import AttemptLog.Web.Route
/-!
The server: what each route does, as a program over a store.

What is wrong with a request is found in a fixed order: the path, the method, the identity in the path, the type of
the body, its size, its form, the complaints about it, and only then what the service finds. Each reply is counted.
-/
namespace AttemptLog.Web

/-- what the server knows besides the store: the name of the kind of store and who may read the counts -/
structure Site where
  backend : String
  credential : String

def maxBodyBytes : Nat := 2 * 1024 * 1024

/-- the identity that stands in a path -/
def pathId (raw : String) : Except Rejection String :=
  match Text.Utf8.decode? (Text.Percent.decode (Text.Utf8.encode raw)) with
  | some id => .ok id
  | none => .error .badPath

def readBody {α : Type} (reader : Json.Reader α) (request : Request) : Except Rejection α :=
  if !((request.header? "content-type").map isJsonType).getD false then .error .badType
  else if maxBodyBytes < request.body.length then .error .tooLarge
  else
    match reader.whole (Text.Utf8.symbols request.body) with
    | .ok form => .ok form
    | .error .malformed => .error .malformed
    | .error .mismatched => .error .mismatched

/-- the reply to a failed call; what is wrong with the store is not told -/
def failureReply : Failure → Reply
  | .notFound id => .json 404 (.string (Failure.notFound id).message)
  | .conflict expected actual => .json 409 (.string (Failure.conflict expected actual).message)
  | .finished id => .json 409 (.string (Failure.finished id).message)
  | .corrupt _ _ => .json 500 (.string "Failed to process attempt")
  | .storage _ => .json 500 (.string "Failed to process attempt")

def reportReply {α : Type} (status : Nat) (value : α → Json.Value) (report : Report α) : Reply × List Count :=
  match report.result with
  | .ok answer => (.json status (value answer), report.counts)
  | .error failure => (failureReply failure, report.counts)

/-- reads a form and goes on, unless there is something wrong with it -/
def withForm {α : Type} (reader : Json.Reader α) (complaints : α → List Complaint) (request : Request)
    (go : α → Program storeInterface (Reply × List Count)) : Program storeInterface (Reply × List Count) :=
  match readBody reader request with
  | .error rejection => pure (.ofRejection rejection, [])
  | .ok form =>
    if (complaints form).isEmpty then go form
    else pure (.json 400 (.string (Complaint.text (complaints form))), [])

/-- reads the identity in a path and goes on -/
def withId (raw : String) (go : String → Program storeInterface (Reply × List Count)) :
    Program storeInterface (Reply × List Count) :=
  match pathId raw with
  | .error rejection => pure (.ofRejection rejection, [])
  | .ok id => go id

def startAttempt (issue : Issue) (request : Request) : Program storeInterface (Reply × List Count) :=
  withForm StartForm.reader StartForm.complaints request fun form => do
    let result ← (Service.start form.questionId form.userId issue).run
    return reportReply 201 View.toWire ⟨result, if result.isOk then [.started] else []⟩

def showAttempt (raw : String) : Program storeInterface (Reply × List Count) :=
  withId raw fun id => do
    return reportReply 200 View.toWire ⟨← (Service.view id).run, []⟩

/-- does what a form asks for -/
def submitForm {α : Type} (reader : Json.Reader α) (complaints : α → List Complaint) (submission : α → Submission)
    (expected : α → Option String) (raw : String) (issue : Issue) (request : Request) :
    Program storeInterface (Reply × List Count) :=
  withId raw fun id =>
    withForm reader complaints request fun form => do
      return reportReply 200 Receipt.toWire (← Service.submit id (submission form) (expected form) issue)

/-- the state of the store as the health report shows it -/
def storeHealth : Except Failure Pulse → Option String
  | .ok .present => none
  | .ok .silent => some "Store timeout after 1s"
  | .error failure => some failure.message

/-- the health report, given what is wrong with the store -/
def healthReply (site : Site) (trouble : Option String) : Reply :=
  let store : Json.Value :=
    match trouble with
    | none => .object [("status", .string "healthy")]
    | some text => .object [("status", .string "unhealthy"), ("error", .string text)]
  .json (if trouble.isNone then 200 else 503)
    (.object [("status", .string (if trouble.isNone then "healthy" else "degraded")),
      ("service", .string "questionengine-api"), ("version", .string "0.1.0"),
      ("dependencies", .object [(site.backend, store)])])

/-- what a route does with a request of one of its methods -/
def serve (site : Site) (meter : Meter) (issue : Issue) (request : Request) :
    Route → Program storeInterface (Reply × List Count)
  | .health => do
    return (healthReply site (storeHealth (← Program.query (I := storeInterface) .ping)), [])
  | .metrics => pure (.plain 200 (.counts meter.lines meter.shape), [])
  | .attempts => startAttempt issue request
  | .attempt raw => showAttempt raw
  | .steps raw =>
    submitForm SubmitForm.reader SubmitForm.complaints SubmitForm.submission SubmitForm.expected raw issue request
  | .autosave raw =>
    submitForm DraftForm.reader DraftForm.complaints DraftForm.submission DraftForm.expected raw issue request
  | .grade raw =>
    submitForm GradeForm.reader GradeForm.complaints GradeForm.submission GradeForm.expected raw issue request

/-- the reply to a request for a route, whatever its method -/
def respondAt (site : Site) (meter : Meter) (issue : Issue) (request : Request) (route : Route) :
    Program storeInterface (Reply × List Count) :=
  let refused : Option Reply :=
    if request.method ∈ route.methods then none else some (.methodNotAllowed route.allow)
  if route = .metrics ∧ !isAuthorized site.credential request then
    pure ({ Reply.bare 401 with allow := refused.bind Reply.allow }, [])
  else
    match refused with
    | some reply => pure (reply, [])
    | none => do
      let (reply, counts) ← serve site meter issue request route
      return (if request.method = "HEAD" then reply.withoutBody else reply, counts)

/-- the reply to a request, and what was counted; `meter` is what was counted before -/
def respond (site : Site) (meter : Meter) (issue : Issue) (request : Request) :
    Program storeInterface (Reply × List Count) := do
  let (reply, counts) ←
    match Route.ofPath? request.path with
    | none => pure (Reply.bare 404, [])
    | some route => respondAt site meter issue request route
  return (reply, counts ++ [.request request.method (pathLabel request.path) reply.status])

/-- the mark by which a request can be followed: the one it came with, or a new one -/
def traceId (fresh : String) (request : Request) : String := (request.header? "x-trace-id").getD fresh

end AttemptLog.Web
