import AttemptLog.Proofs.Form
import AttemptLog.Proofs.History.Closing
import AttemptLog.Proofs.Service.CarriedOut
import AttemptLog.Proofs.Web.Traces
/-!
How a submission is answered that nobody gets in the way of.

What is handed in can be refused for five reasons, and `refusal?` gives the first one that applies to the contents of
the store, in a fixed order. `submission_answered` says that the server answers with this reason, and with success if
there is none: once the steps were read the store carries out whatever was decided, so keeping it never fails.
-/
namespace AttemptLog

/-! ## A submission alone -/

namespace Store

variable {store : Store} {id : String}

theorem exists_view {attempt : Attempt} (hattempt : store.attempts.get? id = some attempt)
    (hlog : IsLog id (store.stepsOf id)) : ∃ view, store.view id = .ok view := by
  obtain ⟨history, hread⟩ := History.exists_ofSteps_iff.2 hlog
  refine ⟨⟨attempt, history⟩, ?_⟩
  rw [view_of_get? hattempt, hread]
  rfl

theorem view_of_not_isLog {attempt : Attempt} (hattempt : store.attempts.get? id = some attempt)
    (hlog : ¬IsLog id (store.stepsOf id)) : ∃ flaw, store.view id = .error (.corrupt id flaw) := by
  cases hread : History.ofSteps id (store.stepsOf id) with
  | ok history => exact absurd (History.exists_ofSteps_iff.1 ⟨history, hread⟩) hlog
  | error failure =>
    obtain ⟨flaw, rfl⟩ := History.ofSteps_eq_error hread
    refine ⟨flaw, ?_⟩
    rw [view_of_get? hattempt, hread]
    rfl

/-- **A submission reports what was decided**, whatever the store holds: what was decided can be kept. -/
theorem run_submit_report (store : Store) (id : String) (submission : Submission) (expected : Option String)
    (issue : Issue) :
    (((Call.submit id submission expected).program issue).run answer store).1 =
      match store.decide id submission expected issue.stamp with
      | .error failure => submission.refused failure
      | .ok decision => submission.accepted decision := by
  cases hdecide : store.decide id submission expected issue.stamp with
  | ok decision =>
    obtain ⟨view, hview, hmade⟩ := decide_eq_ok hdecide
    obtain ⟨after, -, hrun⟩ := run_submit_of_decide hview hmade
    rw [hrun]
  | error failure =>
    rw [Call.run_program rfl]
    cases hview : store.view id with
    | error unread =>
      simp only [decide, hview, Except.error.injEq] at hdecide
      subst hdecide
      simp only [Call.conclude, Program.run, Submission.refused, isConflict_view hview]
      rfl
    | ok view =>
      simp only [decide, hview] at hdecide
      simp only [Call.conclude, hdecide, Program.run]

theorem submit_result (store : Store) (id : String) (submission : Submission) (expected : Option String)
    (issue : Issue) :
    ((Service.submit id submission expected issue).run answer store).1.result =
      (store.decide id submission expected issue.stamp).map Decision.receipt := by
  have hreport := congrArg Report.result (run_submit_report store id submission expected issue)
  simp only [Call.program, Bind.bind, Pure.pure, Program.run_bind, Program.run] at hreport
  revert hreport
  cases store.decide id submission expected issue.stamp with
  | error failure =>
    cases ((Service.submit id submission expected issue).run answer store).1.result with
    | error other => simp [Except.map, Submission.refused]
    | ok receipt => simp [Except.map, Submission.refused]
  | ok decision =>
    cases ((Service.submit id submission expected issue).run answer store).1.result with
    | error failure => simp [Except.map, Submission.accepted]
    | ok receipt => simp [Except.map, Submission.accepted]

end Store

namespace Web

/-! ## Reasons to refuse a submission -/

inductive Refusal where
  | badResponse (response : Response)
  | unknown (id : String)
  | unreadable
  /-- the last step is not the one that the sender saw -/
  | stale (seen last : String)
  | closed (id : String)
  deriving DecidableEq

namespace Refusal

def status : Refusal → Nat
  | .badResponse _ => 400
  | .unknown _ => 404
  | .unreadable => 500
  | .stale _ _ | .closed _ => 409

def text : Refusal → String
  | .badResponse response => Complaint.text (checkResponse response)
  | .unknown id => "Attempt " ++ id ++ " not found"
  | .unreadable => "Failed to process attempt"
  | .stale seen last => "Step log changed concurrently: expected last step " ++ seen ++ ", found " ++ last
  | .closed id => "Attempt " ++ id ++ " is already finished"

/-- the reply that tells of it -/
def reply (refusal : Refusal) : Reply := .json refusal.status (.string refusal.text)

end Refusal

/-- the first reason that what is stored gives to refuse a submission -/
def objection? (store : Store) (id : String) (submission : Submission) (expected : Option String) : Option Refusal :=
  let steps := store.stepsOf id
  if store.attempts.get? id = none then some (.unknown id)
  else if ¬IsLog id steps then some .unreadable
  else
    match expected.filter fun seen => seen ≠ Store.lastId steps with
    | some seen => some (.stale seen (Store.lastId steps))
    | none =>
      if submission.isVerdict = false ∧ ∃ step ∈ realSteps steps, step.state = .finished ∨ step.state = .graded then
        some (.closed id)
      else none

/-- the first reason to refuse a submission: the response itself, and then what is stored -/
def refusal? (store : Store) (id : String) (submission : Submission) (expected : Option String) : Option Refusal :=
  match submission.response?.filter fun response => ¬response.Fits String.utf8ByteSize with
  | some response => some (.badResponse response)
  | none => objection? store id submission expected

section Objections

variable {store : Store} {id : String} {submission : Submission} {expected : Option String}

theorem isClosed_iff_stored {view : View} (hview : store.view id = .ok view) :
    view.history.isClosed = true ↔
      ∃ step ∈ realSteps (store.stepsOf id), step.state = .finished ∨ step.state = .graded := by
  obtain ⟨hsteps, -, hmarked⟩ := Store.view_steps hview
  have hclosing : ∀ state : State, state.isClosing = true ↔ state = .finished ∨ state = .graded := by
    intro state
    cases state <;> simp [State.isClosing]
  rw [← hsteps, hmarked.realSteps_steps]
  simp only [History.isClosed, List.any_eq_true, hclosing]

/-- **A decision is made exactly if there is no objection**, and the reply to a failure tells of the first one. -/
theorem decide_of_objection (store : Store) (id : String) (submission : Submission) (expected : Option String)
    (stamp : Stamp) :
    match objection? store id submission expected with
    | some refusal => ∃ failure, store.decide id submission expected stamp = .error failure ∧
        failureReply failure = refusal.reply
    | none => ∃ decision, store.decide id submission expected stamp = .ok decision := by
  unfold objection?
  by_cases hunknown : store.attempts.get? id = none
  · simp only [hunknown, ite_true]
    have hview : store.view id = .error (.notFound id) := by rw [Store.view, hunknown]
    exact ⟨.notFound id, by rw [Store.decide, hview], rfl⟩
  obtain ⟨attempt, hattempt⟩ := Option.ne_none_iff_exists'.1 hunknown
  by_cases hlog : IsLog id (store.stepsOf id)
  swap
  · simp only [hunknown, hlog, ite_false, not_false_eq_true, ite_true]
    obtain ⟨flaw, hview⟩ := Store.view_of_not_isLog hattempt hlog
    exact ⟨.corrupt id flaw, by rw [Store.decide, hview], rfl⟩
  obtain ⟨view, hview⟩ := Store.exists_view hattempt hlog
  obtain ⟨hsteps, hid, -⟩ := Store.view_steps hview
  have hlast : Store.lastId (store.stepsOf id) = view.history.last.id := by rw [← hsteps, Store.lastId_steps]
  have hdecide : store.decide id submission expected stamp = view.decide submission expected stamp := by
    rw [Store.decide, hview]
  have hfilter : (expected.filter fun seen => seen ≠ Store.lastId (store.stepsOf id)) =
      expected.filter fun seen => seen != view.history.last.id := by
    simp only [hlast, bne, ne_eq, decide_not, beq_eq_decide]
  simp only [hunknown, hlog, ite_false, not_true, hdecide, View.decide, hfilter]
  cases hseen : expected.filter fun seen => seen != view.history.last.id with
  | some seen => exact ⟨.conflict seen view.history.last.id, rfl, by rw [hlast]; rfl⟩
  | none =>
    simp only [← isClosed_iff_stored hview]
    by_cases hclosed : submission.isVerdict = false ∧ view.history.isClosed = true
    · rw [if_pos hclosed]
      obtain ⟨hlearner, hfinished⟩ := hclosed
      exact ⟨_, History.submit_of_isClosed hfinished hlearner stamp, by rw [hid]; rfl⟩
    · rw [if_neg hclosed]
      exact History.exists_submit hclosed stamp

end Objections

def complaintsAbout (submission : Submission) : List Complaint :=
  (submission.response?.map checkResponse).getD []

/-- a response is complained about exactly if it is a reason to refuse the submission -/
theorem refusal?_cases (store : Store) (id : String) (submission : Submission) (expected : Option String) :
    (complaintsAbout submission = [] ∧
        refusal? store id submission expected = objection? store id submission expected) ∨
      ∃ response, complaintsAbout submission = checkResponse response ∧ checkResponse response ≠ [] ∧
        refusal? store id submission expected = some (.badResponse response) := by
  unfold refusal? complaintsAbout
  cases submission.response? with
  | none => exact .inl ⟨rfl, rfl⟩
  | some response =>
    have haccepted := (Response.checked_bytes response).accepted
    by_cases hfits : response.Fits String.utf8ByteSize
    · exact .inl ⟨haccepted.2 hfits, by simp [Option.filter, hfits]⟩
    · exact .inr ⟨response, rfl, fun hnone => hfits (haccepted.1 hnone), by simp [Option.filter, hfits]⟩

theorem refusal?_stale {store : Store} {id : String} {submission : Submission} {expected : Option String}
    {seen last : String} (h : refusal? store id submission expected = some (.stale seen last)) :
    expected = some seen ∧ last = Store.lastId (store.stepsOf id) ∧ seen ≠ last := by
  obtain ⟨-, hobjection⟩ | ⟨response, -, -, hbad⟩ := refusal?_cases store id submission expected
  · rw [hobjection] at h
    unfold objection? at h
    simp only at h
    split at h
    · cases h
    split at h
    · cases h
    split at h
    · next hseen =>
      obtain ⟨hgiven, hother⟩ := Option.filter_eq_some_iff.1 hseen
      cases h
      exact ⟨hgiven, rfl, of_decide_eq_true hother⟩
    · split at h <;> cases h
  · rw [hbad] at h
    cases h

/-! ## Requests -/

/-- does a request hand this in: for an attempt, with the last step that its sender saw. Its path is that of a route for
submissions and its body is read as the form of this route. -/
inductive Request.HandsIn (request : Request) : String → Submission → Option String → Prop where
  | steps {raw id : String} {form : SubmitForm} (hroute : Route.ofPath? request.path = some (.steps raw))
      (hid : pathId raw = .ok id) (hform : readBody SubmitForm.reader request = .ok form) :
      request.HandsIn id form.submission form.expected
  | autosave {raw id : String} {form : DraftForm} (hroute : Route.ofPath? request.path = some (.autosave raw))
      (hid : pathId raw = .ok id) (hform : readBody DraftForm.reader request = .ok form) :
      request.HandsIn id form.submission form.expected
  | grade {raw id : String} {form : GradeForm} (hroute : Route.ofPath? request.path = some (.grade raw))
      (hid : pathId raw = .ok id) (hform : readBody GradeForm.reader request = .ok form) :
      request.HandsIn id form.submission form.expected

section Requests

variable {site : Site} {meter : Meter} {issue : Issue} {request : Request} {store : Store}

theorem respond_run {route : Route} (hroute : Route.ofPath? request.path = some route)
    (hsubmission : route.isSubmission = true) (hmethod : request.method = "POST") :
    ((respond site meter issue request).run Store.answer store).1.1 =
      ((serve site meter issue request route).run Store.answer store).1.1 := by
  have hallowed : "POST" ∈ route.methods := by
    cases route with
    | steps raw | autosave raw | grade raw => exact List.mem_singleton_self _
    | health | metrics | attempts | attempt raw => cases hsubmission
  have hmetrics : route ≠ .metrics := by
    rintro rfl
    cases hsubmission
  have hbody : ¬("POST" = "HEAD") := by decide
  simp only [respond, hroute, respondAt, hmethod, hallowed, hmetrics, hbody, ite_true, false_and, ite_false, Bind.bind,
    Pure.pure, Program.run_bind, Program.run]

theorem submitForm_run {α : Type} {reader : Json.Reader α} {complaints : α → List Complaint}
    {submission : α → Submission} {expected : α → Option String} {raw id : String} {form : α}
    (hid : pathId raw = .ok id)
    (hform : readBody reader request = .ok form) (hcomplaints : complaints form = complaintsAbout (submission form)) :
    ((submitForm reader complaints submission expected raw issue request).run Store.answer store).1.1 =
      if complaintsAbout (submission form) = [] then
        match store.decide id (submission form) (expected form) issue.stamp with
        | .error failure => failureReply failure
        | .ok decision => .json 200 decision.receipt.toWire
      else .json 400 (.string (Complaint.text (complaintsAbout (submission form)))) := by
  simp only [submitForm, withId, hid, withForm, hform, hcomplaints, List.isEmpty_iff]
  split
  · simp only [Bind.bind, Pure.pure, Program.run_bind, Program.run, reportReply, Store.submit_result]
    cases store.decide id (submission form) (expected form) issue.stamp <;> rfl
  · rfl

/-- the reply to what is handed in: it depends on the complaints and on what is decided, and not on the form -/
theorem Request.HandsIn.respond_run {id : String} {submission : Submission} {expected : Option String}
    (h : request.HandsIn id submission expected) (hmethod : request.method = "POST") :
    ((respond site meter issue request).run Store.answer store).1.1 =
      if complaintsAbout submission = [] then
        match store.decide id submission expected issue.stamp with
        | .error failure => failureReply failure
        | .ok decision => .json 200 decision.receipt.toWire
      else .json 400 (.string (Complaint.text (complaintsAbout submission))) := by
  cases h with
  | @steps raw id form hroute hid hform =>
    have hcomplaints : form.complaints = complaintsAbout form.submission := by
      rw [SubmitForm.submission]
      cases form.mode <;> rfl
    rw [Web.respond_run hroute rfl hmethod]
    exact submitForm_run hid hform hcomplaints
  | autosave hroute hid hform =>
    rw [Web.respond_run hroute rfl hmethod]
    exact submitForm_run hid hform rfl
  | @grade raw id form hroute hid hform =>
    have hcomplaints : form.complaints = complaintsAbout form.submission := by
      rw [GradeForm.complaints, GradeForm.submission, complaintsAbout, Submission.response?]
      cases form.response <;> rfl
    rw [Web.respond_run hroute rfl hmethod]
    exact submitForm_run hid hform hcomplaints

/-- the reply tells of the first reason to refuse what is handed in, or of success -/
theorem Request.HandsIn.reply (site : Site) (meter : Meter) (issue : Issue) (store : Store) {id : String}
    {submission : Submission} {expected : Option String} (h : request.HandsIn id submission expected)
    (hmethod : request.method = "POST") :
    match refusal? store id submission expected with
    | some refusal => ((respond site meter issue request).run Store.answer store).1.1 = refusal.reply
    | none =>
      ∃ receipt : Receipt, ((respond site meter issue request).run Store.answer store).1.1 =
        .json 200 receipt.toWire := by
  rw [h.respond_run hmethod]
  obtain ⟨hnone, hrefusal⟩ | ⟨response, hsome, hbad, hrefusal⟩ := refusal?_cases store id submission expected
  · rw [hrefusal, if_pos hnone]
    have hdecide := decide_of_objection store id submission expected issue.stamp
    revert hdecide
    cases objection? store id submission expected with
    | some refusal =>
      rintro ⟨failure, hfailure, hreply⟩
      rwa [hfailure]
    | none =>
      rintro ⟨decision, hdecision⟩
      exact ⟨decision.receipt, by rw [hdecision]⟩
  · rw [hrefusal, hsome, if_neg hbad]
    rfl

/-- **A submission is answered by the first reason to refuse it**, and with success if there is none. Let a store hold
anything, and let a request hand something in for an attempt while nobody else is at work.

- The reasons are, in this order: the response is not accepted (400), there is no record of the attempt (404), its
  steps are no log (500), the last step is not the one that the sender saw (409), and a real step has closed the
  attempt and what is handed in is no verdict (409).
- The reply has the status of the first one and its text. A sender who saw another last step is told of both.
- Without such a reason the status is 200: keeping what was decided never fails. -/
theorem submission_answered (site : Site) (meter : Meter) (issue : Issue) (store : Store) {request : Request}
    {id : String} {submission : Submission} {expected : Option String} (hmethod : request.method = "POST")
    (hhands : request.HandsIn id submission expected) :
    (∀ refusal, refusal? store id submission expected = some refusal →
        ((respond site meter issue request).run Store.answer store).1.1 = .json refusal.status (.string refusal.text)) ∧
      (∀ seen last, refusal? store id submission expected = some (.stale seen last) →
        expected = some seen ∧ last = Store.lastId (store.stepsOf id) ∧ seen ≠ last) ∧
      (refusal? store id submission expected = none →
        ∃ receipt : Receipt, ((respond site meter issue request).run Store.answer store).1.1 =
          .json 200 receipt.toWire) := by
  have hreply := hhands.reply site meter issue store hmethod
  refine ⟨fun refusal hrefusal => ?_, fun seen last => refusal?_stale, fun hnone => ?_⟩
  · rw [hrefusal] at hreply
    exact hreply
  · rw [hnone] at hreply
    exact hreply

/-- a draft that would change nothing, from a sender who saw another last step -/
def outdated : Request :=
  ⟨"POST", "/api/v1/attempts/kept/autosave", [("Content-Type", "application/json")],
    Text.Utf8.encode "\x7b\"data\": \x7b\x7d, \"expected_last_step_id\": \"zeroth\"\x7d"⟩

theorem submission_answered_outdated :
    outdated.HandsIn "kept" (.autosave Keyed.empty) (some "zeroth") ∧
      refusal? Visits.halfLost "kept" (.autosave Keyed.empty) (some "zeroth") = some (.stale "zeroth" "first") ∧
      ((respond ⟨"memory", "secret"⟩ [] ⟨"", "second", .year2024⟩ outdated).run Store.answer Visits.halfLost).1.1 =
        .json 409 (.string "Step log changed concurrently: expected last step zeroth, found first") := by
  have hread : (readBody DraftForm.reader outdated).toOption.map (fun form => (form.response, form.expected)) =
      some (Keyed.empty, some "zeroth") := by decide +kernel
  have hroute : Route.ofPath? outdated.path = some (.autosave "kept") := by decide +kernel
  have hhands : outdated.HandsIn "kept" (.autosave Keyed.empty) (some "zeroth") := by
    cases hbody : readBody DraftForm.reader outdated with
    | error rejection =>
      rw [hbody] at hread
      cases hread
    | ok form =>
      rw [hbody] at hread
      have hform : outdated.HandsIn "kept" form.submission form.expected := .autosave hroute (by decide +kernel) hbody
      obtain ⟨response, expected⟩ := form
      cases hread
      exact hform
  have hrefusal : refusal? Visits.halfLost "kept" (.autosave Keyed.empty) (some "zeroth") =
      some (.stale "zeroth" "first") := by decide +kernel
  exact ⟨hhands, hrefusal, (submission_answered _ _ _ Visits.halfLost rfl hhands).1 _ hrefusal⟩

end Requests

end Web

end AttemptLog
