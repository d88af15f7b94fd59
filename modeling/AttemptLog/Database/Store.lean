import AttemptLog.Database.Document
import AttemptLog.Store
/-!
A store that keeps attempts and steps in a database.

Whatever changes the database is a transaction. Its body is run again from the start only if the database says that
nothing of it was applied; if it is not known whether a commit was applied, only the commit is sent again.
-/
namespace AttemptLog.Database

def attemptTable : String := "question_attempts"

def stepTable : String := "question_attempt_steps"

/-- the label of an error after which the transaction can be run again -/
def transientLabel : String := "TransientTransactionError"

/-- the label of a commit's error if the commit may have been applied -/
def unknownLabel : String := "UnknownTransactionCommitResult"

def maxCommitRetries : Nat := 3

/-- work with a database that may fail -/
abbrev Task (α : Type) := ExceptT Failure (Program interface) α

def failureAt (stage : Stage) (labels : List String) : Failure := .storage (.database stage labels)

def send (stage : Stage) (place : Place) (command : Command) : Task command.Reply := ExceptT.mk do
  match ← Program.query (I := interface) (.send place command) with
  | .ok reply => pure (.ok reply)
  | .error fault => pure (.error (failureAt stage fault.labels))

/-- the first document that fits is read and must hold a value -/
def readFirst {α : Type} (stage : Stage) (decode : Document → Option α) : List Document → Except Failure (Option α)
  | [] => .ok none
  | document :: _ =>
    match decode document with
    | some value => .ok (some value)
    | none => .error (failureAt stage [])

/-- all documents must hold values -/
def readAll {α : Type} (stage : Stage) (decode : Document → Option α) (documents : List Document) :
    Except Failure (List α) :=
  match documents.mapM decode with
  | some values => .ok values
  | none => .error (failureAt stage [])

/-- sends a commit, and up to this many times again if it is not known whether it was applied -/
def commitFrom : Nat → Program interface (Except Failure Unit)
  | 0 => (send .commitTransaction .inside .commit).run
  | left + 1 => do
    match ← Program.query (I := interface) (.send .inside .commit) with
    | .ok () => pure (.ok ())
    | .error fault =>
      if unknownLabel ∈ fault.labels then commitFrom left
      else pure (.error (failureAt .commitTransaction fault.labels))

/-- runs a transaction once: the commit follows its body, or an abort if the body fails -/
def transactOnce (body : Task Unit) : Program interface (Except Failure Unit) := do
  match ← Program.query (I := interface) .startSession with
  | .error fault => pure (.error (failureAt .startSession fault.labels))
  | .ok () =>
    match ← Program.query (I := interface) .startTransaction with
    | .error fault => pure (.error (failureAt .startTransaction fault.labels))
    | .ok () =>
      match ← body.run with
      | .ok () => commitFrom maxCommitRetries
      | .error failure => do
        let _ ← Program.query (I := interface) (.send .inside .abort)
        pure (.error failure)

/-- can a transaction that failed in this way be run again -/
def isTransient : Failure → Bool
  | .storage (.database _ labels) => labels.contains transientLabel
  | _ => false

/-- runs a transaction, and again while its failures pass; every wait can be represented, so the text is never seen -/
def transact (body : Task Unit) : Program interface (Except Failure Unit) := do
  let result ← Backoff.transaction.retry isTransient (Program.query (I := interface) .draw)
    (fun span => Program.query (I := interface) (.pause span)) (transactOnce body)
  pure (result.getD (.error (.storage (.described "The wait cannot be represented"))))

/-- counts a piece of work on a table -/
def tracked {α : Type} (operation table : String) (work : Program interface (Except Failure α)) :
    Program interface (Except Failure α) := do
  let result ← work
  let () ← Program.query (I := interface) (.tally (.database operation table result.isOk))
  pure result

def createBody (attempt : Attempt) (first : Step) : Task Unit := do
  let () ← send .insertAttempt .first (.insert attemptTable attempt.toJson)
  send .insertFirstStep .inside (.insert stepTable first.toJson)

/-- the last step of an attempt; reading it inside a transaction makes two writers collide -/
def readLast (id : String) : Task Step := do
  let documents ← send .readLastStep .first
    (.find stepTable [("attempt_id", id)] (some ⟨"sequence_number", true⟩) (some 1))
  match ← (readFirst .readLastStep step? documents : Except Failure _) with
  | some step => pure step
  | none => throw (.notFound id)

/-- takes a step away; `last` is the last step of the attempt -/
def removeStep (id : String) (last : Step) (removed : String) : Task Unit := do
  let (deleted : Nat) ← send .deleteDraft .inside (.delete stepTable [("_id", removed), ("attempt_id", id)])
  if deleted = 1 then pure () else throw (.conflict removed last.id)

/-- carries out a change if the last step is still the expected one -/
def changeBody (id expected : String) (change : Change) : Task Unit := do
  let last ← readLast id
  if last.id = expected then pure () else throw (.conflict expected last.id)
  match change.removed with
  | some removed => removeStep id last removed
  | none => pure ()
  match change.appended with
  | some step => send .insertStep .inside (.insert stepTable step.toJson)
  | none => pure ()

def setUp : Program interface (Except Failure Unit) :=
  (send .createIndex .outside (.createIndex stepTable ["attempt_id", "sequence_number"])).run

/-- answers a query of the service; a change that is empty is not sent -/
def answer : (query : Query) → Program interface (Except Failure query.Answer)
  | .create attempt first => tracked "create_attempt" attemptTable (transact (createBody attempt first))
  | .find id =>
    tracked "find_one" attemptTable do
      match ← (send .findAttempt .outside (.find attemptTable [("_id", id)] none (some 1))).run with
      | .ok documents => pure (readFirst .findAttempt attempt? documents)
      | .error failure => pure (.error failure)
  | .load id =>
    tracked "find" stepTable do
      match ← (send .findSteps .outside
          (.find stepTable [("attempt_id", id)] (some ⟨"sequence_number", false⟩) none)).run with
      | .ok documents => pure (readAll .readSteps step? documents)
      | .error failure => pure (.error failure)
  | .commit id expected change =>
    if change.isEmpty then pure (.ok ()) else tracked "commit" stepTable (transact (changeBody id expected change))
  | .ping => do
    match ← (send .ping .outside .ping).run with
    | .ok () => pure (.ok Pulse.present)
    | .error failure => pure (.error failure)

end AttemptLog.Database
