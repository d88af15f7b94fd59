import AttemptLog.Proofs.Service.Traffic
import AttemptLog.Proofs.Trace
/-!
The courses that a call can take.

`Course` lists what a call can have asked a store in memory when it is done, and what it then reports: it was answered
in states that others may have changed in between, and nothing is said about the stores, which may hold anything.
`course_of_goes` says that there are no other courses. A call that fails has changed nothing
(`Course.quiet_of_error`), and one that goes through has changed what it decided on with one question, if there was
anything to change (`Course.submitted`).
-/
namespace AttemptLog

/-- an attempt was found in one state of a store, and its history was read in another one -/
structure View.Seen (view : View) (id : String) (found loaded : Store) : Prop where
  attempt : found.attempts.get? id = some view.attempt
  history : History.ofSteps id (loaded.stepsOf id) = .ok view.history

/-- a question to a store in memory and the state in which it was answered -/
abbrev StoreAsked := Asked storeInterface Store

namespace Store

@[simp]
theorem isQuiet_find (id : String) (store : Store) : Asked.IsQuiet answer (⟨.find id, store⟩ : StoreAsked) := rfl

@[simp]
theorem isQuiet_load (id : String) (store : Store) : Asked.IsQuiet answer (⟨.load id, store⟩ : StoreAsked) := rfl

@[simp]
theorem isQuiet_ping (store : Store) : Asked.IsQuiet answer (⟨.ping, store⟩ : StoreAsked) := rfl

theorem isQuiet_create {store : Store} {attempt : Attempt} {first : Step} {failure : Failure}
    (h : store.create attempt first = .error failure) :
    Asked.IsQuiet answer (⟨.create attempt first, store⟩ : StoreAsked) := by
  simp [Asked.IsQuiet, answer, settle, h]

theorem isQuiet_commit {store : Store} {id expected : String} {change : Change} {failure : Failure}
    (h : store.commit id expected change = .error failure) :
    Asked.IsQuiet answer (⟨.commit id expected change, store⟩ : StoreAsked) := by
  simp [Asked.IsQuiet, answer, settle, h]

end Store

/-- what a call hands in, if it hands in anything -/
def Call.submission? : Call → Option Submission
  | .submit _ submission _ => some submission
  | _ => none

namespace Ticket

/-- what a call asked, and what it reports -/
inductive Course (ticket : Ticket) : List StoreAsked → Report Answer → Prop where
  | began {questionId userId : String} {store next : Store} (hcall : ticket.call = .start questionId userId)
    (hcreate : store.create (ticket.issue.newView questionId userId).attempt
      (ticket.issue.newView questionId userId).history.current = .ok next) :
    Course ticket [⟨.create (ticket.issue.newView questionId userId).attempt
      (ticket.issue.newView questionId userId).history.current, store⟩]
      ⟨.ok (.view (ticket.issue.newView questionId userId)), [.started]⟩
  /-- the attempt was there already -/
  | notBegun {questionId userId : String} {store : Store} {failure : Failure}
    (hcall : ticket.call = .start questionId userId)
    (hcreate : store.create (ticket.issue.newView questionId userId).attempt
      (ticket.issue.newView questionId userId).history.current = .error failure) :
    Course ticket [⟨.create (ticket.issue.newView questionId userId).attempt
      (ticket.issue.newView questionId userId).history.current, store⟩] ⟨.error failure, []⟩
  | unknown {id : String} {found : Store} (htarget : ticket.call.target? = some id)
    (hattempt : found.attempts.get? id = none) : Course ticket [⟨.find id, found⟩] ⟨.error (.notFound id), []⟩
  /-- the steps are no log -/
  | unreadable {id : String} {found loaded : Store} {attempt : Attempt} {failure : Failure}
    (htarget : ticket.call.target? = some id) (hattempt : found.attempts.get? id = some attempt)
    (hhistory : History.ofSteps id (loaded.stepsOf id) = .error failure) :
    Course ticket [⟨.find id, found⟩, ⟨.load id, loaded⟩] ⟨.error failure, []⟩
  /-- the call wanted to know something -/
  | read {id : String} {found loaded : Store} {view : View} {answer : Answer} (htarget : ticket.call.target? = some id)
    (hreads : ticket.call.submission? = none) (hseen : view.Seen id found loaded) :
    Course ticket [⟨.find id, found⟩, ⟨.load id, loaded⟩] ⟨.ok answer, []⟩
  /-- the client had seen another last step, or the attempt is closed -/
  | rejected {id : String} {submission : Submission} {expected : Option String} {found loaded : Store} {view : View}
    {failure : Failure} (hcall : ticket.call = .submit id submission expected) (hseen : view.Seen id found loaded)
    (hdecide : view.decide submission expected ticket.issue.stamp = .error failure) :
    Course ticket [⟨.find id, found⟩, ⟨.load id, loaded⟩] (submission.refused failure)
  /-- there was nothing to change -/
  | idle {id : String} {submission : Submission} {expected : Option String} {found loaded : Store} {view : View}
    {decision : Decision} (hcall : ticket.call = .submit id submission expected) (hseen : view.Seen id found loaded)
    (hdecide : view.decide submission expected ticket.issue.stamp = .ok decision)
    (hchange : decision.change.isEmpty = true) :
    Course ticket [⟨.find id, found⟩, ⟨.load id, loaded⟩] (submission.accepted decision)
  /-- the change was handed in and carried out -/
  | changed {id : String} {submission : Submission} {expected : Option String} {found loaded last next : Store}
    {view : View} {decision : Decision} (hcall : ticket.call = .submit id submission expected)
    (hseen : view.Seen id found loaded)
    (hdecide : view.decide submission expected ticket.issue.stamp = .ok decision)
    (hchange : decision.change.isEmpty = false)
    (hcommit : last.commit id view.history.last.id decision.change = .ok next) :
    Course ticket [⟨.find id, found⟩, ⟨.load id, loaded⟩, ⟨.commit id view.history.last.id decision.change, last⟩]
      (submission.accepted decision)
  /-- the change was handed in and refused -/
  | lost {id : String} {submission : Submission} {expected : Option String} {found loaded last : Store} {view : View}
    {decision : Decision} {failure : Failure} (hcall : ticket.call = .submit id submission expected)
    (hseen : view.Seen id found loaded)
    (hdecide : view.decide submission expected ticket.issue.stamp = .ok decision)
    (hchange : decision.change.isEmpty = false)
    (hcommit : last.commit id view.history.last.id decision.change = .error failure) :
    Course ticket [⟨.find id, found⟩, ⟨.load id, loaded⟩, ⟨.commit id view.history.last.id decision.change, last⟩]
      (submission.refused failure)

/-- once a view was seen, the call has one of these courses -/
theorem course_of_seen {ticket : Ticket} {id : String} (htarget : ticket.call.target? = some id) {found loaded : Store}
    {view : View} (hseen : view.Seen id found loaded) {asked : List StoreAsked} {report : Report Answer}
    (hgoes : (ticket.call.conclude ticket.issue (.ok view)).Goes Store.answer asked (.done report)) :
    ticket.Course (⟨.find id, found⟩ :: ⟨.load id, loaded⟩ :: asked) report := by
  obtain ⟨call, issue⟩ := ticket
  cases call with
  | start questionId userId => cases htarget
  | submit other submission expected =>
    cases htarget
    simp only [Call.conclude] at hgoes
    cases hdecide : view.decide submission expected issue.stamp with
    | error failure =>
      simp only [hdecide] at hgoes
      cases hgoes
      exact .rejected rfl hseen hdecide
    | ok decision =>
      simp only [hdecide] at hgoes
      cases hchange : decision.change.isEmpty with
      | true =>
        simp only [hchange, ite_true] at hgoes
        cases hgoes
        exact .idle rfl hseen hdecide hchange
      | false =>
        simp only [hchange, Bool.false_eq_true, ite_false] at hgoes
        cases hgoes with
        | asks last hrest =>
          cases hcommit : last.commit id view.history.last.id decision.change with
          | ok next =>
            simp only [Store.answer, hcommit, Store.settle, afterCommit] at hrest
            cases hrest
            exact .changed rfl hseen hdecide hchange hcommit
          | error failure =>
            simp only [Store.answer, hcommit, Store.settle, afterCommit] at hrest
            cases hrest
            exact .lost rfl hseen hdecide hchange hcommit
  | _ =>
    cases hgoes
    exact .read htarget rfl hseen

theorem course_of_start {ticket : Ticket} {questionId userId : String} (hcall : ticket.call = .start questionId userId)
    {asked : List StoreAsked} {report : Report Answer}
    (hgoes : (Program.ask (I := storeInterface) (.create (ticket.issue.newView questionId userId).attempt
      (ticket.issue.newView questionId userId).history.current)
      (afterCreate (ticket.issue.newView questionId userId))).Goes Store.answer asked (.done report)) :
    ticket.Course asked report := by
  cases hgoes with
  | asks store hrest =>
    cases hcreate : store.create (ticket.issue.newView questionId userId).attempt
        (ticket.issue.newView questionId userId).history.current with
    | ok next =>
      simp only [Store.answer, hcreate, Store.settle, afterCreate] at hrest
      cases hrest
      exact .began hcall hcreate
    | error failure =>
      simp only [Store.answer, hcreate, Store.settle, afterCreate] at hrest
      cases hrest
      exact .notBegun hcall hcreate

/-- **A call that is done has taken one of these courses.** -/
theorem course_of_goes {ticket : Ticket} {asked : List StoreAsked} {report : Report Answer}
    (hgoes : ticket.program.Goes Store.answer asked (.done report)) : ticket.Course asked report := by
  have herror : ∀ failure, ticket.call.conclude ticket.issue (.error failure) = .done ⟨.error failure, []⟩ := by
    intro failure
    cases ticket.call <;> rfl
  rcases ticket.program_cases with ⟨questionId, userId, hcall, hprogram⟩ | ⟨id, htarget, hprogram⟩
  · rw [hprogram] at hgoes
    exact course_of_start hcall hgoes
  · rw [hprogram] at hgoes
    cases hgoes with
    | asks found hrest =>
      cases hattempt : found.attempts.get? id with
      | none =>
        simp only [Store.answer, hattempt, afterFind, herror] at hrest
        cases hrest
        exact .unknown htarget hattempt
      | some attempt =>
        simp only [Store.answer, hattempt, afterFind] at hrest
        cases hrest with
        | asks loaded hrest =>
          cases hhistory : History.ofSteps id (loaded.stepsOf id) with
          | error failure =>
            simp only [Store.answer, afterLoad, hhistory, Except.map, herror] at hrest
            cases hrest
            exact .unreadable htarget hattempt hhistory
          | ok history =>
            simp only [Store.answer, afterLoad, hhistory, Except.map] at hrest
            exact course_of_seen htarget ⟨hattempt, hhistory⟩ hrest

/-! ## What is left in the store -/

/-- **A call that fails has changed nothing.** -/
theorem Course.quiet_of_error {ticket : Ticket} {asked : List StoreAsked} {report : Report Answer}
    (h : ticket.Course asked report) {failure : Failure} (herror : report.result = .error failure) :
    ∀ question ∈ asked, question.IsQuiet Store.answer := by
  cases h with
  | began hcall hcreate => simp at herror
  | read htarget hreads hseen => simp at herror
  | idle hcall hseen hdecide hchange => simp [Submission.accepted] at herror
  | changed hcall hseen hdecide hchange hcommit => simp [Submission.accepted] at herror
  | notBegun hcall hcreate => simp [Store.isQuiet_create hcreate]
  | unknown htarget hattempt => simp
  | unreadable htarget hattempt hhistory => simp
  | rejected hcall hseen hdecide => simp
  | lost hcall hseen hdecide hchange hcommit => simp [Store.isQuiet_commit hcommit]

/-- a call that hands nothing in is done as soon as it was answered -/
theorem conclude_reads {call : Call} (hreads : call.submission? = none) (issue : Issue) (viewed : Except Failure View) :
    ∃ report, call.conclude issue viewed = .done report := by
  cases call with
  | submit id submission expected => simp [Call.submission?] at hreads
  | _ => exact ⟨_, rfl⟩

/-- **A call that only reads changes nothing**, however far it comes. -/
theorem quiet_of_reads {ticket : Ticket} {id : String} (htarget : ticket.call.target? = some id)
    (hreads : ticket.call.submission? = none) {asked : List StoreAsked} {rest : Program storeInterface (Report Answer)}
    (hgoes : ticket.program.Goes Store.answer asked rest) : ∀ question ∈ asked, question.IsQuiet Store.answer := by
  have hdone : ∀ viewed, ∃ report, ticket.call.conclude ticket.issue viewed = .done report :=
    conclude_reads hreads ticket.issue
  rw [program, Call.program_eq htarget] at hgoes
  cases hgoes with
  | stays => simp
  | asks found hrest =>
    cases hattempt : found.attempts.get? id with
    | none =>
      obtain ⟨report, hreport⟩ := hdone (.error (.notFound id))
      simp only [Store.answer, hattempt, afterFind, hreport] at hrest
      simp [hrest.of_done.1]
    | some attempt =>
      simp only [Store.answer, hattempt, afterFind] at hrest
      cases hrest with
      | stays => simp
      | asks loaded hrest =>
        obtain ⟨report, hreport⟩ := hdone ((History.ofSteps id (loaded.stepsOf id)).map (View.mk attempt))
        simp only [Store.answer, afterLoad, hreport] at hrest
        simp [hrest.of_done.1]

/-- what a submission that goes through has asked: it decided on a view, and its change was carried out, if there was
one -/
inductive Stored (id : String) (view : View) (decision : Decision) (found loaded : Store) : List StoreAsked → Prop where
  | nothing (hchange : decision.change.isEmpty = true) :
    Stored id view decision found loaded [⟨.find id, found⟩, ⟨.load id, loaded⟩]
  | change {last next : Store} (hchange : decision.change.isEmpty = false)
    (hcommit : last.commit id view.history.last.id decision.change = .ok next) :
    Stored id view decision found loaded
      [⟨.find id, found⟩, ⟨.load id, loaded⟩, ⟨.commit id view.history.last.id decision.change, last⟩]

/-- **A submission that goes through hands its change in once.** -/
theorem Course.submitted {ticket : Ticket} {asked : List StoreAsked} {report : Report Answer}
    (h : ticket.Course asked report) {id : String} {submission : Submission} {expected : Option String}
    (hcall : ticket.call = .submit id submission expected) {answer : Answer} (hok : report.result = .ok answer) :
    ∃ found loaded view decision, View.Seen view id found loaded ∧
      view.decide submission expected ticket.issue.stamp = .ok decision ∧
        Stored id view decision found loaded asked := by
  cases h with
  | notBegun hcall' hcreate => simp at hok
  | unknown htarget hattempt => simp at hok
  | unreadable htarget hattempt hhistory => simp at hok
  | rejected hcall' hseen hdecide => simp [Submission.refused] at hok
  | lost hcall' hseen hdecide hchange hcommit => simp [Submission.refused] at hok
  | began hcall' hcreate => simp [hcall] at hcall'
  | read htarget hreads hseen => simp [hcall, Call.submission?] at hreads
  | idle hcall' hseen hdecide hchange =>
    rw [hcall] at hcall'
    cases hcall'
    exact ⟨_, _, _, _, hseen, hdecide, .nothing hchange⟩
  | changed hcall' hseen hdecide hchange hcommit =>
    rw [hcall] at hcall'
    cases hcall'
    exact ⟨_, _, _, _, hseen, hdecide, .change hchange hcommit⟩

end Ticket

end AttemptLog
