import AttemptLog.Proofs.Form
import AttemptLog.Proofs.Service.Contents
import AttemptLog.Proofs.Web.Requests
/-!
Nothing gets into a store through the server that the forms would refuse.

Each form is checked before its call is made, so the calls behind requests hand in accepted responses only and begin
attempts with accepted identities only (`call?_accepted`). A store that holds no others therefore never does
(`accepted_only`), with the responses that verdicts take over among them.
-/
namespace AttemptLog.Web

/-- is this an accepted response: with at most 256 fields, and with names that are not empty, not longer than 128
bytes and do not begin with a colon -/
structure Accepts (response : Response) : Prop where
  size : response.size ≤ 256
  names : ∀ name ∈ response.names, name ≠ "" ∧ name.utf8ByteSize ≤ 128 ∧ name.toList.head? ≠ some ':'

/-- is this the record of an attempt with accepted identities, which have from one to sixty-four characters -/
structure IsNamed (attempt : Attempt) : Prop where
  question : 1 ≤ attempt.questionId.length ∧ attempt.questionId.length ≤ 64
  user : 1 ≤ attempt.userId.length ∧ attempt.userId.length ≤ 64

theorem accepts_empty : Accepts Keyed.empty := ⟨Nat.zero_le _, fun _ hmem => nomatch hmem⟩

/-! ## Forms without complaints -/

theorem accepts_of_checkResponse {response : Response} (h : checkResponse response = []) : Accepts response := by
  have hfits := (Response.checked_bytes response).accepted.1 h
  refine ⟨hfits.size, fun name hmem => ?_⟩
  obtain ⟨hnonempty, hshort, hunreserved⟩ := hfits.names name hmem
  exact ⟨hnonempty, hshort, hunreserved⟩

theorem length_of_checkId {part id : String} (h : checkId part id = []) : 1 ≤ id.length ∧ id.length ≤ 64 := by
  unfold checkId at h
  split at h
  · next hlength => exact hlength
  · cases h

/-- does a form without complaints hand in accepted responses only -/
def ChecksResponses {α : Type} (complaints : α → List Complaint) (submission : α → Submission) : Prop :=
  ∀ form, complaints form = [] → ∀ response, (submission form).response? = some response → Accepts response

theorem submitForm_checks : ChecksResponses SubmitForm.complaints SubmitForm.submission := by
  intro form hcomplaints response hresponse
  have haccepts : Accepts form.response := accepts_of_checkResponse hcomplaints
  unfold SubmitForm.submission at hresponse
  split at hresponse <;>
  · cases hresponse
    exact haccepts

theorem draftForm_checks : ChecksResponses DraftForm.complaints DraftForm.submission := by
  intro form hcomplaints response hresponse
  cases hresponse
  exact accepts_of_checkResponse hcomplaints

theorem gradeForm_checks : ChecksResponses GradeForm.complaints GradeForm.submission := by
  intro form hcomplaints response hresponse
  have hgiven : form.response = some response := hresponse
  rw [GradeForm.complaints, hgiven] at hcomplaints
  exact accepts_of_checkResponse hcomplaints

/-! ## Calls behind requests -/

/-- does a call hand in accepted responses only, and begin attempts with accepted identities only -/
structure IsAccepted (call : Call) : Prop where
  offers : ∀ issue, Ticket.Offers Accepts ⟨call, issue⟩
  begins : ∀ questionId userId, call = .start questionId userId →
    ∀ issue : Issue, IsNamed (issue.newView questionId userId).attempt

theorem complaints_of_form? {α : Type} {reader : Json.Reader α} {complaints : α → List Complaint} {request : Request}
    {form : α} (h : form? reader complaints request = some form) : complaints form = [] := by
  obtain ⟨-, hempty⟩ := Option.filter_eq_some_iff.1 h
  exact List.isEmpty_iff.1 hempty

theorem submitCall?_accepted {α : Type} {reader : Json.Reader α} {complaints : α → List Complaint}
    {submission : α → Submission} (hchecks : ChecksResponses complaints submission) {expected : α → Option String}
    {raw : String} {request : Request} {call : Call}
    (h : submitCall? reader complaints submission expected raw request = some call) : IsAccepted call := by
  obtain ⟨id, -, hcall⟩ := Option.bind_eq_some_iff.1 h
  obtain ⟨form, hform, rfl⟩ := Option.map_eq_some_iff.1 hcall
  refine ⟨fun issue other handed seen hsame response hresponse => ?_, fun _ _ hstart => nomatch hstart⟩
  cases hsame
  exact hchecks form (complaints_of_form? hform) response hresponse

/-- **A call behind a request is accepted**, whatever its route and its body. -/
theorem call?_accepted {request : Request} {call : Call} (h : request.call? = some call) : IsAccepted call := by
  obtain ⟨route, -, hcall⟩ := Option.bind_eq_some_iff.1 h
  cases route with
  | health | metrics => cases hcall
  | attempt raw =>
    obtain ⟨id, -, rfl⟩ := Option.map_eq_some_iff.1 hcall
    exact ⟨fun _ _ _ _ hsubmit => (nomatch hsubmit), fun _ _ hstart => nomatch hstart⟩
  | attempts =>
    obtain ⟨form, hform, rfl⟩ := Option.map_eq_some_iff.1 hcall
    have hchecked := complaints_of_form? hform
    simp only [StartForm.complaints, List.append_eq_nil_iff] at hchecked
    refine ⟨fun _ _ _ _ hsubmit => (nomatch hsubmit), fun questionId userId hstart issue => ?_⟩
    cases hstart
    exact ⟨length_of_checkId hchecked.1, length_of_checkId hchecked.2⟩
  | steps raw => exact submitCall?_accepted submitForm_checks hcall
  | autosave raw => exact submitCall?_accepted draftForm_checks hcall
  | grade raw => exact submitCall?_accepted gradeForm_checks hcall

/-- **A request keeps a store free of what is not accepted.** -/
theorem Visit.keeps_accepted (visit : Visit) : visit.program.Keeps Store.answer (Store.Holds Accepts IsNamed) := by
  have hserved := program_served visit
  generalize visit.program = program at hserved
  cases hserved with
  | refused hcall hreply => trivial
  | counts hroute hstatus => trivial
  | health hroute hstatus =>
    intro store hstore
    obtain ⟨reply, counts, hnext, -⟩ := hstatus (Store.answer .ping store).1
    rw [hnext]
    exact ⟨hstore, trivial⟩
  | @call call shown hcall hshown =>
    have haccepted := call?_accepted hcall
    have hkeeps : (Ticket.program ⟨call, visit.issue⟩).Keeps Store.answer (Store.Holds Accepts IsNamed) :=
      Ticket.keeps_holds accepts_empty (haccepted.offers visit.issue)
        fun questionId userId hstart => haccepted.begins questionId userId hstart visit.issue
    exact hkeeps.bind_done shown

namespace Visits

/-- **Nothing is stored that the forms would refuse.** Let requests come in and be answered in any order, whatever
their bodies, beginning with an empty store.

- The response of every stored step has at most 256 fields, and every name of a field is not empty, is not longer than
  128 bytes and does not begin with a colon, also where a verdict has taken the response over from another step.
- The question and the user of every stored attempt have names of one to sixty-four characters. -/
theorem accepted_only (moves : List (Move Visit)) :
    (∀ id steps, (after moves).state.steps.get? id = some steps → ∀ step ∈ steps,
        step.response.size ≤ 256 ∧ ∀ name ∈ step.response.names,
          name ≠ "" ∧ name.utf8ByteSize ≤ 128 ∧ name.toList.head? ≠ some ':') ∧
      ∀ id attempt, (after moves).state.attempts.get? id = some attempt →
        (1 ≤ attempt.questionId.length ∧ attempt.questionId.length ≤ 64) ∧
          1 ≤ attempt.userId.length ∧ attempt.userId.length ≤ 64 := by
  have hholds : (after moves).state.Holds Accepts IsNamed :=
    World.run_keeps Visit.keeps_accepted Store.holds_empty moves
  refine ⟨fun id steps hget step hmem => ?_, fun id attempt hget => ?_⟩
  · have haccepts := hholds.steps id steps hget step hmem
    exact ⟨haccepts.size, haccepts.names⟩
  · have hnamed := hholds.attempts id attempt hget
    exact ⟨hnamed.question, hnamed.user⟩

/-- a response is handed in, and a verdict takes it over; a request with a reserved field name comes between the two -/
def takenOver : List (Move Visit) :=
  let visit (attemptId stepId path body : String) : Visit :=
    ⟨⟨"memory", "secret"⟩, [], ⟨attemptId, stepId, .year2024⟩,
      ⟨"POST", path, [("Content-Type", "application/json")], Text.Utf8.encode body⟩⟩
  [.enter (visit "attempt" "first" "/api/v1/attempts" "\x7b\"question_id\": \"question\", \"user_id\": \"user\"\x7d"),
    .enter (visit "" "second" "/api/v1/attempts/attempt/steps" "\x7b\"data\": \x7b\"answer\": \"4\"\x7d\x7d"),
    .enter (visit "" "refused" "/api/v1/attempts/attempt/autosave" "\x7b\"data\": \x7b\":flag\": \"1\"\x7d\x7d"),
    .enter (visit "" "third" "/api/v1/attempts/attempt/grade" "\x7b\"state\": \"graded\"\x7d"),
    .advance 0, .advance 1, .advance 1, .advance 1, .advance 3, .advance 3, .advance 3]

theorem accepted_only_taken_over :
    (after takenOver).endings.map (fun ending => (ending.place, ending.result.1.status)) =
        [(2, 400), (0, 201), (1, 200), (3, 200)] ∧
      ((after takenOver).state.stepsOf "attempt").map (fun step => (step.id, step.response.names)) =
        [("first", []), ("second", ["answer"]), ("third", ["answer"])] ∧
      ∀ step ∈ (after takenOver).state.stepsOf "attempt", step.response.size ≤ 256 := by
  refine ⟨by decide +kernel, by decide +kernel, fun step hmem => ?_⟩
  cases hsteps : (after takenOver).state.steps.get? "attempt" with
  | none => simp [Store.stepsOf, hsteps] at hmem
  | some steps =>
    rw [Store.stepsOf_of_get? hsteps] at hmem
    exact ((accepted_only takenOver).1 "attempt" steps hsteps step hmem).1

end Visits

end AttemptLog.Web
