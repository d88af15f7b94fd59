import AttemptLog.Step
/-!
Why an operation on an attempt fails, and the text of each cause.
-/
namespace AttemptLog

/-- what is wrong with a list of stored steps -/
inductive Flaw where
  /-- there is no step at all -/
  | noSteps
  /-- the step belongs to another attempt -/
  | foreignStep (id owner : String)
  /-- the step does not carry its place in the list as its number -/
  | misnumbered (id : String) (number : UInt32) (place : Nat)
  /-- the step is a draft and not the last step, or the only one -/
  | strayDraft (id : String)
  /-- a flaw that is known by its description only -/
  | described (text : String)
  deriving DecidableEq

def Flaw.message : Flaw → String
  | .noSteps => "no steps recorded"
  | .foreignStep id owner => "step " ++ id ++ " belongs to attempt " ++ owner
  | .misnumbered id number place =>
    "step " ++ id ++ " has sequence number " ++ toString number.toNat ++ ", expected " ++ toString place
  | .strayDraft id => "autosave step " ++ id ++ " is not at the tail"
  | .described text => text

inductive Stage where
  | createIndex
  | startSession
  | startTransaction
  | insertAttempt
  | insertFirstStep
  | readLastStep
  | deleteDraft
  | insertStep
  | commitTransaction
  | findAttempt
  | findSteps
  | readSteps
  | ping
  deriving DecidableEq

def Stage.message : Stage → String
  | .createIndex => "Failed to create step sequence index"
  | .startSession => "Failed to start MongoDB session"
  | .startTransaction => "Failed to start MongoDB transaction"
  | .insertAttempt => "Failed to insert attempt"
  | .insertFirstStep => "Failed to insert initial step"
  | .readLastStep => "Failed to read tail step"
  | .deleteDraft => "Failed to delete autosave step"
  | .insertStep => "Failed to insert step"
  | .commitTransaction => "Failed to commit step transaction"
  | .findAttempt => "Failed to query attempt"
  | .findSteps => "Failed to query steps"
  | .readSteps => "Step cursor error"
  | .ping => "MongoDB ping failed"

inductive StoreFault where
  | attemptExists (id : String)
  | stepMissing (id : String)
  /-- the database answered with an error; its labels tell whether trying again can help -/
  | database (stage : Stage) (labels : List String)
  /-- a fault that is known by its description only -/
  | described (text : String)
  deriving DecidableEq

def StoreFault.message : StoreFault → String
  | .attemptExists id => "Attempt " ++ id ++ " already exists"
  | .stepMissing id => "Step " ++ id ++ " not found for removal"
  | .database stage _ => stage.message
  | .described text => text

inductive Failure where
  | notFound (id : String)
  /-- the last step is not the one that the change was decided on -/
  | conflict (expected actual : String)
  | finished (id : String)
  /-- the stored steps of the attempt are no log -/
  | corrupt (id : String) (flaw : Flaw)
  | storage (fault : StoreFault)
  deriving DecidableEq

namespace Failure

def kind : Failure → String
  | .notFound _ => "NotFound"
  | .conflict _ _ => "Conflict"
  | .finished _ => "AttemptFinished"
  | .corrupt _ _ => "CorruptLog"
  | .storage _ => "Storage"

def message : Failure → String
  | .notFound id => "Attempt " ++ id ++ " not found"
  | .conflict expected actual =>
    "Step log changed concurrently: expected last step " ++ expected ++ ", found " ++ actual
  | .finished id => "Attempt " ++ id ++ " is already finished"
  | .corrupt id flaw => "Corrupt step log for attempt " ++ id ++ ": " ++ flaw.message
  | .storage fault => fault.message

/-- is this a change that was decided on another last step -/
def isConflict : Failure → Bool
  | .conflict _ _ => true
  | _ => false

end Failure

end AttemptLog
