import AttemptLog.Proofs.History.Effect
import AttemptLog.Proofs.Keyed
import AttemptLog.Service
import Mathlib.Tactic
/-!
Calls, alone and question by question.

`Ticket.perform` says what a call does when nobody else is at work: it decides on the history as the store has it and
keeps the history that was decided on. It knows nothing of questions to a store, of changes or of last steps that have
to be the expected ones.

`program_eq` says how the program of a call really goes on: it looks the attempt up, reads its steps, and only then
decides (`Call.conclude`); what was decided is handed in by a last question. Other programs can ask theirs in between.
-/
namespace AttemptLog

structure Ticket where
  call : Call
  issue : Issue

namespace Ticket

def program (ticket : Ticket) : Program storeInterface (Report Answer) := ticket.call.program ticket.issue

/-- the identities that the call may give away: an attempt's and its first step's, or that of a further step -/
def ids (ticket : Ticket) : List String :=
  match ticket.call with
  | .start _ _ => [ticket.issue.attemptId, ticket.issue.stepId]
  | .submit _ _ _ => [ticket.issue.stepId]
  | _ => []

/-- does every response that a call hands in have a property -/
def Offers (property : Response → Prop) (ticket : Ticket) : Prop :=
  ∀ id submission expected, ticket.call = .submit id submission expected →
    ∀ response, submission.response? = some response → property response

theorem ids_disjoint {tickets : List Ticket} (hfresh : (tickets.flatMap ids).Nodup) {i j : Nat} {s t : Ticket}
    (hs : tickets[i]? = some s) (ht : tickets[j]? = some t) (hne : i ≠ j) : s.ids.Disjoint t.ids := by
  obtain ⟨hi, rfl⟩ := List.getElem?_eq_some_iff.1 hs
  obtain ⟨hj, rfl⟩ := List.getElem?_eq_some_iff.1 ht
  have hpairwise := List.pairwise_iff_getElem.1 (List.nodup_flatMap.1 hfresh).2
  rcases Nat.lt_or_gt_of_ne hne with hlt | hgt
  · exact hpairwise i j hi hj hlt
  · exact (hpairwise j i hj hi hgt).symm

end Ticket

def Decision.receipt (decision : Decision) : Receipt :=
  ⟨decision.change.outcome, decision.history.size, decision.history.last⟩

namespace Submission

def accepted (submission : Submission) (decision : Decision) : Report Answer :=
  ⟨.ok (.receipt decision.receipt), Service.countsOf submission decision.change⟩

def refused (submission : Submission) (failure : Failure) : Report Answer :=
  ⟨.error failure, if failure.isConflict then [.conflict submission.name] else []⟩

end Submission

/-- decides on a submission as clients see the attempt, unless the client saw another last step -/
def View.decide (view : View) (submission : Submission) (expected : Option String) (stamp : Stamp) :
    Except Failure Decision :=
  match expected.filter fun seen => seen != view.history.last.id with
  | some seen => .error (.conflict seen view.history.last.id)
  | none => view.history.submit stamp submission

namespace Store

def view (store : Store) (id : String) : Except Failure View :=
  match store.attempts.get? id with
  | none => .error (.notFound id)
  | some attempt => (History.ofSteps id (store.stepsOf id)).map (View.mk attempt)

def decide (store : Store) (id : String) (submission : Submission) (expected : Option String) (stamp : Stamp) :
    Except Failure Decision :=
  match store.view id with
  | .error failure => .error failure
  | .ok view => view.decide submission expected stamp

def keep (store : Store) (id : String) (history : History) : Store :=
  { store with steps := store.steps.insert id history.steps }

end Store

namespace Ticket

/-- what a call reports and what becomes of the store when nobody else is at work -/
def perform (ticket : Ticket) (store : Store) : Report Answer × Store :=
  match ticket.call with
  | .start questionId userId =>
    let id := ticket.issue.attemptId
    let attempt : Attempt := ⟨id, questionId, userId, ticket.issue.now⟩
    let history := History.start id ticket.issue.stamp
    if store.attempts.contains id then (⟨.error (.storage (.attemptExists id)), []⟩, store)
    else
      (⟨.ok (.view ⟨attempt, history⟩), [.started]⟩,
        ⟨store.attempts.insert id attempt, store.steps.insert id history.steps⟩)
  | .render id => (⟨(store.view id).map .view, []⟩, store)
  | .load id => (⟨(store.view id).map fun view => .history view.history, []⟩, store)
  | .size id => (⟨(store.view id).map fun view => .size view.history.size, []⟩, store)
  | .last id => (⟨(store.view id).map fun view => .last view.history.last, []⟩, store)
  | .submit id submission expected =>
    match store.decide id submission expected ticket.issue.stamp with
    | .error failure => (submission.refused failure, store)
    | .ok decision => (submission.accepted decision, store.keep id decision.history)

end Ticket

/-! ## Question by question -/

section Reading

variable {α : Type}

def afterLoad (id : String) (attempt : Attempt) (go : Except Failure View → Program storeInterface α) :
    Except Failure (List Step) → Program storeInterface α
  | .error failure => go (.error failure)
  | .ok steps => go ((History.ofSteps id steps).map (View.mk attempt))

def afterFind (id : String) (go : Except Failure View → Program storeInterface α) :
    Except Failure (Option Attempt) → Program storeInterface α
  | .error failure => go (.error failure)
  | .ok none => go (.error (.notFound id))
  | .ok (some attempt) => .ask (.load id) (afterLoad id attempt go)

theorem view_bind (id : String) (go : Except Failure View → Program storeInterface α) :
    (Service.view id).run.bind go = .ask (.find id) (afterFind id go) := by
  simp only [Service.view, Service.ask, Program.query, bind, ExceptT.bind, ExceptT.run, ExceptT.mk, Program.bind]
  congr 1
  funext found
  cases found with
  | error failure => rfl
  | ok found =>
    cases found with
    | none => rfl
    | some attempt =>
      simp only [ExceptT.bindCont, afterFind, Program.bind]
      congr 1
      funext loaded
      cases loaded with
      | error failure => rfl
      | ok steps =>
        simp only [afterLoad]
        cases History.ofSteps id steps <;> rfl

end Reading

def afterCommit (submission : Submission) (decision : Decision) :
    Except Failure Unit → Program storeInterface (Report Answer)
  | .ok () => .done (submission.accepted decision)
  | .error failure => .done (submission.refused failure)

theorem afterCommit_ne_ask {submission : Submission} {decision : Decision} {reply : Except Failure Unit}
    {request : Query} {next : Except Failure request.Answer → Program storeInterface (Report Answer)} :
    afterCommit submission decision reply ≠ .ask request next := by
  cases reply <;> exact nofun

def afterCreate (view : View) : Except Failure Unit → Program storeInterface (Report Answer)
  | .ok () => .done ⟨.ok (.view view), [.started]⟩
  | .error failure => .done ⟨.error failure, []⟩

theorem afterCreate_ne_ask {view : View} {reply : Except Failure Unit} {request : Query}
    {next : Except Failure request.Answer → Program storeInterface (Report Answer)} :
    afterCreate view reply ≠ .ask request next := by
  cases reply <;> exact nofun

namespace Call

/-- the attempt that a call is about; a start has none yet -/
def target? : Call → Option String
  | .start _ _ => none
  | .render id | .load id | .size id | .last id | .submit id _ _ => some id

/-- how a call goes on once an attempt and its history were read, or could not be read -/
def conclude (issue : Issue) : Call → Except Failure View → Program storeInterface (Report Answer)
  | .start _ _, viewed | .render _, viewed => .done ⟨viewed.map .view, []⟩
  | .load _, viewed => .done ⟨viewed.map fun view => .history view.history, []⟩
  | .size _, viewed => .done ⟨viewed.map fun view => .size view.history.size, []⟩
  | .last _, viewed => .done ⟨viewed.map fun view => .last view.history.last, []⟩
  | .submit _ _ _, .error failure => .done ⟨.error failure, []⟩
  | .submit id submission expected, .ok view =>
    match view.decide submission expected issue.stamp with
    | .error failure => .done (submission.refused failure)
    | .ok decision =>
      if decision.change.isEmpty then .done (submission.accepted decision)
      else .ask (.commit id view.history.last.id decision.change) (afterCommit submission decision)

theorem reading_load (id : String) (show? : History → Answer) :
    reading show? (Service.load id) =
      (Service.view id).run.bind fun viewed => .done ⟨viewed.map fun view => show? view.history, []⟩ := by
  simp only [reading, Service.load, Functor.map, ExceptT.map, ExceptT.run, ExceptT.mk, Bind.bind, Pure.pure]
  rw [Program.bind_assoc]
  congr 1
  funext viewed
  cases viewed <;> rfl

theorem carryOut_bind (id : String) (submission : Submission) (history : History) (decision : Decision) :
    ((Service.carryOut id submission history decision).bind fun report =>
        .done ⟨report.result.map Answer.receipt, report.counts⟩) =
      if decision.change.isEmpty then .done (submission.accepted decision)
      else .ask (.commit id history.last.id decision.change) (afterCommit submission decision) := by
  unfold Service.carryOut
  split
  · rfl
  · simp only [Program.query, Bind.bind, Program.bind]
    congr 1
    funext reply
    cases reply <;> rfl

theorem submit_program (issue : Issue) (id : String) (submission : Submission) (expected : Option String) :
    (Call.submit id submission expected).program issue =
      (Service.view id).run.bind ((Call.submit id submission expected).conclude issue) := by
  simp only [program, Service.submit, Service.load, Functor.map, ExceptT.map, ExceptT.run, ExceptT.mk, Bind.bind,
    Pure.pure]
  rw [Program.bind_assoc, Program.bind_assoc]
  congr 1
  funext viewed
  cases viewed with
  | error failure => rfl
  | ok view =>
    simp only [conclude, View.decide, Program.bind]
    cases hseen : expected.filter fun seen => seen != view.history.last.id with
    | some seen => rfl
    | none =>
      cases hsubmit : view.history.submit issue.stamp submission with
      | error failure =>
        obtain ⟨-, rfl⟩ := History.submit_eq_error hsubmit
        rfl
      | ok decision => exact carryOut_bind id submission view.history decision

/-- **A call on an attempt looks it up, reads its steps and then concludes.** -/
theorem program_eq {call : Call} {id : String} (h : call.target? = some id) (issue : Issue) :
    call.program issue = .ask (.find id) (afterFind id (call.conclude issue)) := by
  rw [← view_bind]
  cases call with
  | start questionId userId => cases h
  | render other =>
    cases h
    rfl
  | load other | size other | last other =>
    cases h
    exact reading_load id _
  | submit other submission expected =>
    cases h
    exact submit_program issue id submission expected

end Call

/-- the attempt that a start begins, and its history -/
def Issue.newView (issue : Issue) (questionId userId : String) : View :=
  ⟨⟨issue.attemptId, questionId, userId, issue.now⟩, History.start issue.attemptId issue.stamp⟩

/-- a call begins an attempt, or it is about one -/
theorem Ticket.program_cases (ticket : Ticket) :
    (∃ questionId userId, ticket.call = .start questionId userId ∧
        ticket.program = .ask (.create (ticket.issue.newView questionId userId).attempt
          (ticket.issue.newView questionId userId).history.current)
          (afterCreate (ticket.issue.newView questionId userId))) ∨
      ∃ id, ticket.call.target? = some id ∧
        ticket.program = .ask (.find id) (afterFind id (ticket.call.conclude ticket.issue)) := by
  cases htarget : ticket.call.target? with
  | some id => exact .inr ⟨id, rfl, Call.program_eq htarget ticket.issue⟩
  | none =>
    obtain ⟨call, issue⟩ := ticket
    cases call with
    | start questionId userId =>
      refine .inl ⟨questionId, userId, rfl, ?_⟩
      simp only [program, Call.program, Service.start, Service.ask, Program.query, Bind.bind, Pure.pure, ExceptT.bind,
        ExceptT.run, ExceptT.mk, ExceptT.pure, Program.bind]
      congr 1
      funext reply
      cases reply <;> rfl
    | _ => cases htarget

end AttemptLog
