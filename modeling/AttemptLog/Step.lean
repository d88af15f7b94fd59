import AttemptLog.Instant.Text
import AttemptLog.Response
import AttemptLog.Spelling
/-!
Attempts at a question and their steps.

An attempt says who works on which question. Each of its steps is one recorded state of the work: a saved response, a
provisional one that was saved automatically, or the verdict of a grader.
-/
namespace AttemptLog

inductive State where
  | todo
  | invalid
  | complete
  | finished
  | graded
  deriving DecidableEq, Inhabited

instance : Spelled State where
  all := [.todo, .invalid, .complete, .finished, .graded]
  spelling
    | .todo => "todo"
    | .invalid => "invalid"
    | .complete => "complete"
    | .finished => "finished"
    | .graded => "graded"

theorem ofSpelling?_state (state : State) : ofSpelling? (spelling state) = some state := by
  cases state <;> rfl

namespace State

/-- the state of a response that is saved and not finished -/
def ofResponse (response : Response) : State := if Response.isBlank response then .todo else .complete

/-- does a real step in this state close the attempt -/
def isClosing : State → Bool
  | .finished | .graded => true
  | .todo | .invalid | .complete => false

/-- do graders write this state -/
def isVerdict : State → Bool
  | .graded | .invalid => true
  | .todo | .complete | .finished => false

end State

inductive Verdict where
  | graded
  | invalid
  deriving DecidableEq

instance : Spelled Verdict where
  all := [.graded, .invalid]
  spelling
    | .graded => "graded"
    | .invalid => "invalid"

def Verdict.state : Verdict → State
  | .graded => .graded
  | .invalid => .invalid

/-- how an operation changed a log of steps -/
inductive Outcome where
  /-- a new step stands at the end -/
  | appended
  /-- a new draft stands in place of the draft at the end -/
  | replaced
  /-- the draft at the end is gone -/
  | reverted
  /-- nothing changed -/
  | unchanged
  /-- the response was that of the last real step; a draft at the end is gone -/
  | discarded
  deriving DecidableEq

instance : Spelled Outcome where
  all := [.appended, .replaced, .reverted, .unchanged, .discarded]
  spelling
    | .appended => "appended"
    | .replaced => "replaced"
    | .reverted => "reverted"
    | .unchanged => "unchanged"
    | .discarded => "discarded"

inductive Mode where
  /-- a step only if the response changed -/
  | save
  /-- a step in any case -/
  | append
  /-- the step that closes the attempt -/
  | finish
  deriving DecidableEq

instance : Spelled Mode where
  all := [.save, .append, .finish]
  spelling
    | .save => "save"
    | .append => "append"
    | .finish => "finish"

/-- one recorded state of an attempt; a draft is a step that was saved automatically -/
structure Step where
  id : String
  attemptId : String
  number : UInt32
  state : State
  response : Response
  time : Instant
  isDraft : Bool
  deriving DecidableEq

/-- one learner's work on one question -/
structure Attempt where
  id : String
  questionId : String
  userId : String
  created : Instant
  deriving DecidableEq

namespace Step

/-- the form in which a step is stored -/
def toJson (step : Step) : Json.Value :=
  .object [("_id", .string step.id), ("attempt_id", .string step.attemptId),
    ("sequence_number", .nat step.number.toNat), ("state", .string (spelling step.state)),
    ("data", Response.toJson step.response), ("timestamp", .string step.time.render), ("autosave", .bool step.isDraft)]

/-- the form in which a step is shown to clients -/
def toWire (step : Step) : Json.Value :=
  .object [("id", .string step.id), ("sequence_number", .nat step.number.toNat),
    ("state", .string (spelling step.state)), ("data", Response.toJson step.response),
    ("timestamp", .string step.time.render), ("autosave", .bool step.isDraft)]

end Step

namespace Attempt

/-- the form in which an attempt is stored -/
def toJson (attempt : Attempt) : Json.Value :=
  .object [("_id", .string attempt.id), ("question_id", .string attempt.questionId),
    ("user_id", .string attempt.userId), ("created_at", .string attempt.created.render)]

/-- the form in which an attempt is shown to clients -/
def toWire (attempt : Attempt) : Json.Value :=
  .object [("id", .string attempt.id), ("question_id", .string attempt.questionId),
    ("user_id", .string attempt.userId), ("created_at", .string attempt.created.render)]

end Attempt

end AttemptLog
