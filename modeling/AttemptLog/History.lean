import AttemptLog.Failure
/-!
The history of an attempt: its real steps in order and at most one draft after them.

A history is never empty. An operation either fails and leaves the history as it is, or gives the next history and the
change that a store has to make. Real steps are never taken away; a draft gives way to the next real step.

`IsLog` says which lists of steps are the stored form of a history, and `ofSteps` accepts those.
-/
namespace AttemptLog

/-- what a store has to do to follow an operation: take one step away, then put one step at the end -/
structure Change where
  outcome : Outcome
  removed : Option String
  appended : Option Step
  deriving DecidableEq

def Change.isEmpty (change : Change) : Bool := change.removed.isNone && change.appended.isNone

/-- the identity and the time of the step that an operation may add -/
structure Stamp where
  id : String
  time : Instant

inductive Submission where
  /-- a response that becomes a step in any case -/
  | append (response : Response)
  /-- a response that becomes a step if it is not that of the last real step -/
  | save (response : Response)
  /-- a response that closes the attempt -/
  | finish (response : Response)
  /-- a verdict, on the response of the last real step if none is given -/
  | grade (verdict : Verdict) (response : Option Response)
  /-- a response that is provisional -/
  | autosave (response : Response)

def Submission.name : Submission → String
  | .append _ => "append"
  | .save _ => "save"
  | .finish _ => "finish"
  | .grade _ _ => "grade"
  | .autosave _ => "autosave"

/-- is this a provisional response -/
def Submission.isDraft : Submission → Bool
  | .autosave _ => true
  | _ => false

inductive Action where
  | submit (submission : Submission)
  /-- a real step in a state of the caller's choice -/
  | record (response : Response) (state : State)

/-- the real steps of an attempt, of which `current` is the last, and the draft after them -/
structure History where
  attemptId : String
  earlier : List Step
  current : Step
  draft : Option Step
  deriving DecidableEq

/-- a change and the history after it -/
structure Decision where
  change : Change
  history : History
  deriving DecidableEq

/-- are these steps the stored form of a history of this attempt -/
structure IsLog (attemptId : String) (steps : List Step) : Prop where
  nonempty : steps ≠ []
  owned : ∀ step ∈ steps, step.attemptId = attemptId
  numbered : ∀ place (h : place < steps.length), steps[place].number.toNat = place
  draftLast : ∀ place (h : place < steps.length), steps[place].isDraft = true → 0 < place ∧ place + 1 = steps.length

namespace History

def start (attemptId : String) (stamp : Stamp) : History where
  attemptId := attemptId
  earlier := []
  current := ⟨stamp.id, attemptId, 0, .todo, Keyed.empty, stamp.time, false⟩
  draft := none

def realSteps (history : History) : List Step := history.earlier ++ [history.current]

def steps (history : History) : List Step := history.realSteps ++ history.draft.toList

def size (history : History) : Nat := history.steps.length

/-- the last step, be it a draft or not -/
def last (history : History) : Step := history.draft.getD history.current

def isClosed (history : History) : Bool := history.realSteps.any fun step => step.state.isClosing

/-- what is wrong with a step at its place -/
def flawAt (attemptId : String) (place : Nat) (isLast : Bool) (step : Step) : Option Flaw :=
  if step.attemptId ≠ attemptId then some (.foreignStep step.id step.attemptId)
  else if step.number.toNat ≠ place then some (.misnumbered step.id step.number place)
  else if step.isDraft && (!isLast || place == 0) then some (.strayDraft step.id)
  else none

def firstFlaw (attemptId : String) : Nat → List Step → Option Flaw
  | _, [] => none
  | place, step :: rest =>
    match flawAt attemptId place rest.isEmpty step with
    | some flaw => some flaw
    | none => firstFlaw attemptId (place + 1) rest

/-- the history with these steps, or what is wrong with them first -/
def ofSteps (attemptId : String) (steps : List Step) : Except Failure History :=
  match firstFlaw attemptId 0 steps with
  | some flaw => .error (.corrupt attemptId flaw)
  | none =>
    match steps.reverse with
    | [] => .error (.corrupt attemptId .noSteps)
    | [step] => .ok ⟨attemptId, [], step, none⟩
    | last :: before :: earlier =>
      if last.isDraft then .ok ⟨attemptId, earlier.reverse, before, some last⟩
      else .ok ⟨attemptId, (before :: earlier).reverse, last, none⟩

/-- the step that would follow the last real step -/
def following (history : History) (response : Response) (state : State) (isDraft : Bool) (stamp : Stamp) : Step where
  id := stamp.id
  attemptId := history.attemptId
  number := history.current.number + 1
  state := state
  response := response
  time := stamp.time
  isDraft := isDraft

/-- adds a real step in place of a draft -/
def push (history : History) (response : Response) (state : State) (stamp : Stamp) : Decision :=
  let step := history.following response state false stamp
  ⟨⟨.appended, history.draft.map (·.id), some step⟩,
    { history with earlier := history.realSteps, current := step, draft := none }⟩

def dropDraft (history : History) (outcome : Outcome) : Decision :=
  ⟨⟨outcome, history.draft.map (·.id), none⟩, { history with draft := none }⟩

/-- an open history goes on, a closed one is an error -/
def whenOpen (history : History) (decision : Decision) : Except Failure Decision :=
  if history.isClosed then .error (.finished history.attemptId) else .ok decision

/-- records a real step; only verdicts go into a closed history -/
def record (history : History) (response : Response) (state : State) (stamp : Stamp) : Except Failure Decision :=
  let decision := history.push response state stamp
  if state.isVerdict then .ok decision else history.whenOpen decision

/-- a save adds a step unless the response is that of the last real step; a draft goes in both cases -/
def save (history : History) (response : Response) (stamp : Stamp) : Decision :=
  if response = history.current.response then history.dropDraft .discarded
  else history.push response (.ofResponse response) stamp

/-- a draft is kept only while it differs from the last real step, and a new one takes the place of the old one -/
def autosave (history : History) (response : Response) (stamp : Stamp) : Decision :=
  let fresh := history.following response (.ofResponse response) true stamp
  match history.draft with
  | none =>
    if response = history.current.response then ⟨⟨.unchanged, none, none⟩, history⟩
    else ⟨⟨.appended, none, some fresh⟩, { history with draft := some fresh }⟩
  | some draft =>
    if response = history.current.response then history.dropDraft .reverted
    else if draft.response = response then ⟨⟨.unchanged, none, none⟩, history⟩
    else ⟨⟨.replaced, some draft.id, some fresh⟩, { history with draft := some fresh }⟩

def submit (history : History) (stamp : Stamp) : Submission → Except Failure Decision
  | .append response => history.record response (.ofResponse response) stamp
  | .save response => history.whenOpen (history.save response stamp)
  | .finish response => history.record response .finished stamp
  | .grade verdict response => history.record (response.getD history.current.response) verdict.state stamp
  | .autosave response => history.whenOpen (history.autosave response stamp)

def act (history : History) (stamp : Stamp) : Action → Except Failure Decision
  | .submit submission => history.submit stamp submission
  | .record response state => history.record response state stamp

end History

end AttemptLog
