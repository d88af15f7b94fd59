import AttemptLog.Meter
import AttemptLog.Store
/-!
The service: what callers can ask about attempts, as programs over a store.

A submission loads the history, decides on the change and hands the change in together with the last step that it was
decided on. If another call changed the history in between, the store refuses, and so no change is lost.
-/
namespace AttemptLog

/-- what is issued to one call: identities that nobody else uses, and the time -/
structure Issue where
  attemptId : String
  stepId : String
  now : Instant

def Issue.stamp (issue : Issue) : Stamp := ⟨issue.stepId, issue.now⟩

/-- an attempt as clients see it -/
structure View where
  attempt : Attempt
  history : History
  deriving DecidableEq

namespace View

/-- the form in which a view is shown -/
def toWire (view : View) : Json.Value :=
  .object [("attempt", view.attempt.toWire), ("step_count", .nat view.history.size),
    ("state", .string (spelling view.history.current.state)),
    ("current_response", Response.toJson view.history.last.response),
    ("has_autosave", .bool view.history.draft.isSome), ("last_step_id", .string view.history.last.id),
    ("steps", .array (view.history.steps.map Step.toWire))]

end View

structure Receipt where
  outcome : Outcome
  size : Nat
  last : Step
  deriving DecidableEq

/-- the form in which a receipt is shown -/
def Receipt.toWire (receipt : Receipt) : Json.Value :=
  .object [("outcome", .string (spelling receipt.outcome)), ("step_count", .nat receipt.size),
    ("last_step", receipt.last.toWire)]

structure Report (α : Type) where
  result : Except Failure α
  counts : List Count

namespace Service

/-- work with a store that may fail -/
abbrev Task (α : Type) := ExceptT Failure (Program storeInterface) α

def ask (query : Query) : Task query.Answer := ExceptT.mk (Program.query (I := storeInterface) query)

def view (id : String) : Task View := do
  match ← ask (.find id) with
  | none => throw (.notFound id)
  | some attempt =>
    match History.ofSteps id (← ask (.load id)) with
    | .error failure => throw failure
    | .ok history => pure ⟨attempt, history⟩

def load (id : String) : Task History := View.history <$> view id

def start (questionId userId : String) (issue : Issue) : Task View := do
  let attempt : Attempt := ⟨issue.attemptId, questionId, userId, issue.now⟩
  let history := History.start issue.attemptId issue.stamp
  ask (.create attempt history.current)
  pure ⟨attempt, history⟩

/-- what is counted when a submission went through -/
def countsOf (submission : Submission) (change : Change) : List Count :=
  change.appended.toList.map (fun step => .recorded step.isDraft) ++
    if submission.isDraft then [.autosaved change.outcome] else []

/-- hands in a decision that was made on this history -/
def carryOut (id : String) (submission : Submission) (history : History) (decision : Decision) :
    Program storeInterface (Report Receipt) := do
  let done := Report.mk (.ok ⟨decision.change.outcome, decision.history.size, decision.history.last⟩)
    (countsOf submission decision.change)
  if decision.change.isEmpty then pure done
  else
    match ← Program.query (I := storeInterface) (.commit id history.last.id decision.change) with
    | .ok () => pure done
    | .error failure => pure ⟨.error failure, if failure.isConflict then [.conflict submission.name] else []⟩

/-- does a submission; `expected` is the last step that the client saw, if it says so -/
def submit (id : String) (submission : Submission) (expected : Option String) (issue : Issue) :
    Program storeInterface (Report Receipt) := do
  match ← (load id).run with
  | .error failure => pure ⟨.error failure, []⟩
  | .ok history =>
    match expected.filter fun seen => seen != history.last.id with
    | some seen => pure ⟨.error (.conflict seen history.last.id), [.conflict submission.name]⟩
    | none =>
      match history.submit issue.stamp submission with
      | .error failure => pure ⟨.error failure, []⟩
      | .ok decision => carryOut id submission history decision

end Service

inductive Call where
  | start (questionId userId : String)
  | render (id : String)
  | load (id : String)
  | size (id : String)
  | last (id : String)
  | submit (id : String) (submission : Submission) (expected : Option String)

inductive Answer where
  | view (view : View)
  | history (history : History)
  | size (size : Nat)
  | last (step : Step)
  | receipt (receipt : Receipt)
  deriving DecidableEq

namespace Call

/-- the report of a task that counts nothing -/
def reading {α : Type} (answer : α → Answer) (task : Service.Task α) : Program storeInterface (Report Answer) := do
  return ⟨(← task.run).map answer, []⟩

def program (issue : Issue) : Call → Program storeInterface (Report Answer)
  | .start questionId userId => do
    let result ← (Service.start questionId userId issue).run
    return ⟨result.map .view, if result.isOk then [.started] else []⟩
  | .render id => reading .view (Service.view id)
  | .load id => reading .history (Service.load id)
  | .size id => reading (fun history => .size history.size) (Service.load id)
  | .last id => reading (fun history => .last history.last) (Service.load id)
  | .submit id submission expected => do
    let report ← Service.submit id submission expected issue
    return ⟨report.result.map .receipt, report.counts⟩

end Call

end AttemptLog
