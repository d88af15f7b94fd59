import AttemptLog.Proofs.Service.Alone
import AttemptLog.Web.Server
/-!
Requests and the calls behind them.

`Request.call?` is the call that a request asks for, if there is nothing wrong with the request, and `Served` says
what the server does. Without a call it refuses the request, shows what was counted or asks whether the store is
there. With one it carries the call out and shows its report. `program_served` says that it does nothing else.
-/
namespace AttemptLog.Web

structure Visit where
  site : Site
  meter : Meter
  issue : Issue
  request : Request

def Visit.program (visit : Visit) : Program storeInterface (Reply × List Count) :=
  respond visit.site visit.meter visit.issue visit.request

/-! ## What a request asks for -/

/-- what a body says, if there is nothing wrong with it -/
def form? {α : Type} (reader : Json.Reader α) (complaints : α → List Complaint) (request : Request) : Option α :=
  (readBody reader request).toOption.filter fun form => (complaints form).isEmpty

/-- the call that hands in what a form says, for the attempt in the path -/
def submitCall? {α : Type} (reader : Json.Reader α) (complaints : α → List Complaint) (submission : α → Submission)
    (expected : α → Option String) (raw : String) (request : Request) : Option Call :=
  (pathId raw).toOption.bind fun id =>
    (form? reader complaints request).map fun form => .submit id (submission form) (expected form)

/-- the call that a request of one of its methods asks a route for -/
def Route.call? (request : Request) : Route → Option Call
  | .health | .metrics => none
  | .attempts =>
    (form? StartForm.reader StartForm.complaints request).map fun form => .start form.questionId form.userId
  | .attempt raw => (pathId raw).toOption.map .render
  | .steps raw =>
    submitCall? SubmitForm.reader SubmitForm.complaints SubmitForm.submission SubmitForm.expected raw request
  | .autosave raw =>
    submitCall? DraftForm.reader DraftForm.complaints DraftForm.submission DraftForm.expected raw request
  | .grade raw =>
    submitCall? GradeForm.reader GradeForm.complaints GradeForm.submission GradeForm.expected raw request

namespace Request

/-- the route that a request is for, if the route has its method -/
def route? (request : Request) : Option Route :=
  (Route.ofPath? request.path).filter fun route => request.method ∈ route.methods

/-- the call that a request asks for -/
def call? (request : Request) : Option Call := request.route?.bind (Route.call? request)

end Request

/-! ## How it is shown -/

/-- the status that tells the client that a call succeeded -/
def successStatus : Call → Nat
  | .start _ _ => 201
  | _ => 200

theorem successStatus_cases (call : Call) : successStatus call = 200 ∨ successStatus call = 201 := by
  cases call with
  | start questionId userId => exact .inr rfl
  | _ => exact .inl rfl

/-- is a report shown with one status if the call succeeded, and with that of its failure otherwise -/
structure Tells (status : Nat) (shown : Report Answer → Reply × List Count) : Prop where
  ok : ∀ {report answer}, report.result = .ok answer → (shown report).1.status = status
  error : ∀ {report failure}, report.result = .error failure → (shown report).1.status = (failureReply failure).status

/-- the reply to the report of a call, whatever part of its answer is shown -/
def shown {α : Type} (status : Nat) (value : α → Json.Value) (part : Answer → Option α) (report : Report Answer) :
    Reply × List Count :=
  match report.result with
  | .error failure => (failureReply failure, report.counts)
  | .ok answer =>
    match part answer with
    | some result => (.json status (value result), report.counts)
    | none => (.bare status, report.counts)

def viewOf : Answer → Option View
  | .view view => some view
  | _ => none

def receiptOf : Answer → Option Receipt
  | .receipt receipt => some receipt
  | _ => none

theorem tells_shown {α : Type} (status : Nat) (value : α → Json.Value) (part : Answer → Option α) :
    Tells status (shown status value part) where
  ok {report answer} hok := by
    simp only [shown, hok]
    cases part answer <;> rfl
  error {report failure} herror := by simp only [shown, herror]

theorem shown_map {α : Type} (status : Nat) (value : α → Json.Value) {part : Answer → Option α} {answer : α → Answer}
    (hpart : ∀ result, part (answer result) = some result) (report : Report α) :
    shown status value part ⟨report.result.map answer, report.counts⟩ = reportReply status value report := by
  obtain ⟨result, counts⟩ := report
  cases result with
  | error failure => rfl
  | ok result => simp only [shown, Except.map, hpart, reportReply]

/-! ## What the server does -/

/-- does a reply say that the client did something wrong -/
def Reply.BlamesClient (reply : Reply) : Prop := 400 ≤ reply.status ∧ reply.status < 500

theorem rejection_blames (rejection : Rejection) : (Reply.ofRejection rejection).BlamesClient := by
  cases rejection <;> simp [Reply.BlamesClient, Reply.ofRejection, Reply.plain, Rejection.status]

/-- what the server can do with a request for this route that asks for this call -/
inductive Served (route? : Option Route) (call? : Option Call) (issue : Issue) :
    Program storeInterface (Reply × List Count) → Prop where
  | refused {reply : Reply} {counts : List Count} (hcall : call? = none) (hreply : reply.BlamesClient) :
    Served route? call? issue (.done (reply, counts))
  /-- what was counted is shown -/
  | counts {reply : Reply} {counts : List Count} (hroute : route? = some .metrics) (hstatus : reply.status = 200) :
    Served route? call? issue (.done (reply, counts))
  | health {next : Except Failure Pulse → Program storeInterface (Reply × List Count)} (hroute : route? = some .health)
    (hstatus : ∀ pulse, ∃ reply counts, next pulse = .done (reply, counts) ∧
      (reply.status = 200 ∨ reply.status = 503)) :
    Served route? call? issue (.ask .ping next)
  | call {call : Call} {shown : Report Answer → Reply × List Count} (hcall : call? = some call)
    (hshown : Tells (successStatus call) shown) :
    Served route? call? issue ((call.program issue).bind fun report => .done (shown report))

namespace Served

variable {route? : Option Route} {issue : Issue}

theorem bind_done {call? : Option Call} {program : Program storeInterface (Reply × List Count)}
    (h : Served route? call? issue program) {change : Reply × List Count → Reply × List Count}
    (hchange : ∀ reply, (change reply).1.status = reply.1.status) :
    Served route? call? issue (program.bind fun reply => .done (change reply)) := by
  cases h with
  | @refused reply counts hcall hreply =>
    have hreply' : (change (reply, counts)).1.BlamesClient := by
      rw [Reply.BlamesClient, hchange]
      exact hreply
    exact .refused hcall hreply'
  | @counts reply counts hroute hstatus =>
    have hstatus' : (change (reply, counts)).1.status = 200 := by rw [hchange, hstatus]
    exact .counts hroute hstatus'
  | health hroute hstatus =>
    refine .health hroute fun pulse => ?_
    obtain ⟨reply, counts, hnext, hreply⟩ := hstatus pulse
    refine ⟨(change (reply, counts)).1, (change (reply, counts)).2, ?_, ?_⟩
    · rw [hnext]
      rfl
    · rw [hchange]
      exact hreply
  | @call call shown hcall hshown =>
    rw [Program.bind_assoc]
    have hshown' : Tells (successStatus call) fun report => change (shown report) :=
      ⟨fun hok => by rw [hchange, hshown.ok hok], fun herror => by rw [hchange, hshown.error herror]⟩
    exact .call hcall hshown'

theorem of_call {α β : Type} {call : Call} {value : α → Json.Value} {part : Answer → Option α} {answer : α → Answer}
    (hpart : ∀ result, part (answer result) = some result) {work : Program storeInterface β} {f : β → Report α}
    (hwork : call.program issue = work.bind fun result => .done ⟨(f result).result.map answer, (f result).counts⟩) :
    Served route? (some call) issue
      (work.bind fun result => .done (reportReply (successStatus call) value (f result))) := by
  have hserved : Served route? (some call) issue
      ((call.program issue).bind fun report => .done (shown (successStatus call) value part report)) :=
    .call rfl (tells_shown _ _ _)
  rw [hwork, Program.bind_assoc] at hserved
  simp only [Program.bind, shown_map _ _ hpart] at hserved
  exact hserved

end Served

/-! ## Routes -/

section Routes

variable {route? : Option Route} {issue : Issue}

theorem withForm_served {α : Type} {reader : Json.Reader α} {complaints : α → List Complaint} {request : Request}
    {call : α → Call} {go : α → Program storeInterface (Reply × List Count)}
    (hgo : ∀ form, Served route? (some (call form)) issue (go form)) :
    Served route? ((form? reader complaints request).map call) issue (withForm reader complaints request go) := by
  unfold withForm form?
  cases hbody : readBody reader request with
  | error rejection => exact .refused rfl (rejection_blames rejection)
  | ok form =>
    cases hempty : (complaints form).isEmpty with
    | true => simpa [Except.toOption, Option.filter, hempty] using hgo form
    | false =>
      simp only [Except.toOption, Option.filter, hempty, Bool.false_eq_true, ite_false]
      refine .refused rfl ?_
      simp [Reply.BlamesClient, Reply.json]

theorem withId_served {raw : String} {call? : String → Option Call}
    {go : String → Program storeInterface (Reply × List Count)} (hgo : ∀ id, Served route? (call? id) issue (go id)) :
    Served route? ((pathId raw).toOption.bind call?) issue (withId raw go) := by
  unfold withId
  cases hid : pathId raw with
  | error rejection => exact .refused rfl (rejection_blames rejection)
  | ok id => exact hgo id

theorem startAttempt_served (request : Request) :
    Served route? (Route.attempts.call? request) issue (startAttempt issue request) := by
  refine withForm_served fun form => ?_
  have hview : ∀ view, viewOf (.view view) = some view := fun _ => rfl
  exact .of_call (f := fun result => ⟨result, if result.isOk then [.started] else []⟩) hview rfl

theorem showAttempt_served (request : Request) (raw : String) :
    Served route? ((Route.attempt raw).call? request) issue (showAttempt raw) := by
  have hcall : (Route.attempt raw).call? request = (pathId raw).toOption.bind fun id => some (.render id) :=
    Option.map_eq_bind
  rw [hcall]
  refine withId_served fun id => ?_
  have hview : ∀ view, viewOf (.view view) = some view := fun _ => rfl
  exact .of_call (f := fun result => ⟨result, []⟩) hview rfl

theorem submitForm_served {α : Type} (reader : Json.Reader α) (complaints : α → List Complaint)
    (submission : α → Submission) (expected : α → Option String) (raw : String) (request : Request) :
    Served route? (submitCall? reader complaints submission expected raw request) issue
      (submitForm reader complaints submission expected raw issue request) := by
  refine withId_served fun id => withForm_served fun form => ?_
  have hreceipt : ∀ receipt, receiptOf (.receipt receipt) = some receipt := fun _ => rfl
  exact .of_call (f := fun report => report) hreceipt rfl

theorem healthReply_status (site : Site) (trouble : Option String) :
    (healthReply site trouble).status = 200 ∨ (healthReply site trouble).status = 503 := by
  cases trouble with
  | none => exact .inl rfl
  | some text => exact .inr rfl

theorem serve_served (site : Site) (meter : Meter) (request : Request) (route : Route) :
    Served (some route) (route.call? request) issue (serve site meter issue request route) := by
  cases route with
  | health => exact .health rfl fun pulse => ⟨_, _, rfl, healthReply_status site _⟩
  | metrics => exact .counts rfl rfl
  | attempts => exact startAttempt_served request
  | attempt raw => exact showAttempt_served request raw
  | steps raw | autosave raw | grade raw => exact submitForm_served _ _ _ _ raw request

end Routes

theorem respondAt_served (site : Site) (meter : Meter) (issue : Issue) {request : Request} {route : Route}
    (hroute : Route.ofPath? request.path = some route) :
    Served request.route? request.call? issue (respondAt site meter issue request route) := by
  unfold respondAt
  simp only
  by_cases hmethod : request.method ∈ route.methods
  · have hroute? : request.route? = some route := by simp [Request.route?, hroute, hmethod]
    have hcall? : request.call? = route.call? request := by simp [Request.call?, hroute?]
    rw [hroute?, hcall?]
    split
    · next hrefused =>
      rw [hrefused.1]
      exact .refused rfl (by simp [Reply.BlamesClient, Reply.bare])
    · simp only
      refine (serve_served site meter request route).bind_done fun reply => ?_
      split <;> rfl
  · have hcall? : request.call? = none := by simp [Request.call?, Request.route?, hroute, hmethod]
    split
    · exact .refused hcall? (by simp [Reply.BlamesClient, Reply.bare])
    · simp only
      exact .refused hcall? (by simp [Reply.BlamesClient, Reply.methodNotAllowed])

/-- **What the server does with a request** is to serve it by the call behind it, or without one. -/
theorem program_served (visit : Visit) :
    Served visit.request.route? visit.request.call? visit.issue visit.program := by
  unfold Visit.program respond
  simp only
  cases hroute : Route.ofPath? visit.request.path with
  | none =>
    have hcall : visit.request.call? = none := by simp [Request.call?, Request.route?, hroute]
    exact .refused hcall (by simp [Reply.BlamesClient, Reply.bare])
  | some route => exact (respondAt_served visit.site visit.meter visit.issue hroute).bind_done fun _ => rfl

end AttemptLog.Web
