import AttemptLog.History
import AttemptLog.Program
/-!
Stores of attempts and their steps.

What a store is asked is an interface. A change is handed in together with the last step that it was decided on, and
is carried out only if that is still the last step. `Store` is a store in memory: the attempts and the lists of their
steps, by attempt.
-/
namespace AttemptLog

inductive Query where
  /-- keep a new attempt and its first step -/
  | create (attempt : Attempt) (first : Step)
  | find (id : String)
  | load (id : String)
  /-- carry out a change that was decided when this was the last step -/
  | commit (id : String) (expected : String) (change : Change)
  | ping

/-- an answer to a ping, or no answer in time -/
inductive Pulse where
  | present
  | silent
  deriving DecidableEq

/-- what a store answers to a query that it does not fail at -/
def Query.Answer : Query → Type
  | .create _ _ => Unit
  | .find _ => Option Attempt
  | .load _ => List Step
  | .commit _ _ _ => Unit
  | .ping => Pulse

def Query.isCommit : Query → Bool
  | .commit _ _ _ => true
  | _ => false

abbrev storeInterface : Interface := ⟨Query, fun query => Except Failure query.Answer⟩

/-- takes away the first step with an identity, if there is one -/
def removeStep? (id : String) : List Step → Option (List Step)
  | [] => none
  | step :: rest => if step.id = id then some rest else (removeStep? id rest).map (step :: ·)

/-- carries out a change on a list of steps -/
def Change.apply (change : Change) (steps : List Step) : Except Failure (List Step) :=
  match change.removed with
  | none => .ok (steps ++ change.appended.toList)
  | some id =>
    match removeStep? id steps with
    | none => .error (.storage (.stepMissing id))
    | some rest => .ok (rest ++ change.appended.toList)

structure Store where
  attempts : Keyed Attempt
  steps : Keyed (List Step)
  deriving DecidableEq

namespace Store

def empty : Store := ⟨Keyed.empty, Keyed.empty⟩

instance : Inhabited Store := ⟨empty⟩

/-- the steps of an attempt, none for an unknown one -/
def stepsOf (store : Store) (id : String) : List Step := (store.steps.get? id).getD []

/-- the identity of the last step of a list, empty if there is none -/
def lastId (steps : List Step) : String := (steps.getLast?.map (·.id)).getD ""

def create (store : Store) (attempt : Attempt) (first : Step) : Except Failure Store :=
  if store.attempts.contains attempt.id then .error (.storage (.attemptExists attempt.id))
  else .ok ⟨store.attempts.insert attempt.id attempt, store.steps.insert attempt.id [first]⟩

/-- carries out a change that was decided when `expected` was the last step -/
def commit (store : Store) (id expected : String) (change : Change) : Except Failure Store :=
  match store.steps.get? id with
  | none => .error (.notFound id)
  | some steps =>
    if lastId steps ≠ expected then .error (.conflict expected (lastId steps))
    else (change.apply steps).map fun steps => { store with steps := store.steps.insert id steps }

/-- the answer to a change of a store that may fail, in which case the store stays as it is -/
def settle (store : Store) : Except Failure Store → Except Failure Unit × Store
  | .ok next => (.ok (), next)
  | .error failure => (.error failure, store)

def answer : Handler storeInterface Store
  | .create attempt first, store => store.settle (store.create attempt first)
  | .find id, store => (.ok (store.attempts.get? id), store)
  | .load id, store => (.ok (store.stepsOf id), store)
  | .commit id expected change, store => store.settle (store.commit id expected change)
  | .ping, store => (.ok .present, store)

end Store

end AttemptLog
