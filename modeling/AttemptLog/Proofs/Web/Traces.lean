import AttemptLog.Proofs.Service.Course
import AttemptLog.Proofs.Web.Requests
/-!
What requests leave behind in a store.

The store may hold anything to begin with, and other requests may change it at any moment. A request that is not
answered with success has not changed it, and one that only asks for something never does, even if it is not answered
at all. A submission that is answered with success has decided on what the store held, and its change was carried out
once, if there was one (`failures_leave_no_trace`).
-/
namespace AttemptLog.Web

def Reply.IsSuccess (reply : Reply) : Prop := 200 ≤ reply.status ∧ reply.status < 300

instance (reply : Reply) : Decidable reply.IsSuccess := inferInstanceAs (Decidable (_ ∧ _))

/-- is something handed in for an attempt there -/
def Route.isSubmission : Route → Bool
  | .steps _ | .autosave _ | .grade _ => true
  | _ => false

theorem submitCall?_eq_some {α : Type} {reader : Json.Reader α} {complaints : α → List Complaint}
    {submission : α → Submission} {expected : α → Option String} {raw : String} {request : Request} {call : Call}
    (h : submitCall? reader complaints submission expected raw request = some call) :
    ∃ id handed seen, call = .submit id handed seen := by
  obtain ⟨id, -, hform⟩ := Option.bind_eq_some_iff.1 h
  obtain ⟨form, -, rfl⟩ := Option.map_eq_some_iff.1 hform
  exact ⟨id, _, _, rfl⟩

theorem Request.call?_of_read {request : Request} (hmethod : request.method ∈ ["GET", "HEAD"]) {call : Call}
    (hcall : request.call? = some call) : ∃ id, call = .render id := by
  obtain ⟨route, hroute, hcall⟩ := Option.bind_eq_some_iff.1 hcall
  obtain ⟨-, hallowed⟩ := Option.filter_eq_some_iff.1 hroute
  have hread : route.isRead = true := by
    cases hread : route.isRead with
    | true => rfl
    | false =>
      have hpost : request.method = "POST" := by simpa [Route.methods, hread] using hallowed
      simp [hpost] at hmethod
  cases route with
  | attempt raw =>
    obtain ⟨id, -, rfl⟩ := Option.map_eq_some_iff.1 hcall
    exact ⟨id, rfl⟩
  | health | metrics => simp [Route.call?] at hcall
  | attempts | steps raw | autosave raw | grade raw => simp [Route.isRead] at hread

theorem Request.call?_of_submission {request : Request}
    (hroute : ∀ route, request.route? = some route → route.isSubmission = true) {call : Call}
    (hcall : request.call? = some call) : ∃ id submission expected, call = .submit id submission expected := by
  obtain ⟨route, hroute?, hcall⟩ := Option.bind_eq_some_iff.1 hcall
  have hsubmission := hroute route hroute?
  cases route with
  | steps raw | autosave raw | grade raw => exact submitCall?_eq_some hcall
  | health | metrics | attempts | attempt raw => simp [Route.isSubmission] at hsubmission

namespace Served

variable {route? : Option Route} {call? : Option Call} {issue : Issue}
  {program : Program storeInterface (Reply × List Count)} {asked : List StoreAsked}

theorem quiet_or_call (h : Served route? call? issue program) {rest : Program storeInterface (Reply × List Count)}
    (hgoes : program.Goes Store.answer asked rest) :
    (∀ question ∈ asked, question.IsQuiet Store.answer) ∨
      ∃ call shown left, call? = some call ∧ Tells (successStatus call) shown ∧
        (Ticket.program ⟨call, issue⟩).Goes Store.answer asked left ∧
          rest = left.bind fun report => .done (shown report) := by
  cases h with
  | refused hcall hreply =>
    obtain ⟨rfl, -⟩ := hgoes.of_done
    exact .inl (by simp)
  | counts hroute hstatus =>
    obtain ⟨rfl, -⟩ := hgoes.of_done
    exact .inl (by simp)
  | health hroute hstatus =>
    refine .inl ?_
    cases hgoes with
    | stays => simp
    | asks state hrest =>
      obtain ⟨reply, counts, hnext, -⟩ := hstatus (Store.answer .ping state).1
      rw [hnext] at hrest
      simp [hrest.of_done.1]
  | @call call shown hcall hshown =>
    obtain ⟨left, hleft, hrest⟩ := hgoes.of_bind_done
    exact .inr ⟨call, shown, left, hcall, hshown, hleft, hrest⟩

theorem quiet_of_failure (h : Served route? call? issue program) {reply : Reply × List Count}
    (hgoes : program.Goes Store.answer asked (.done reply)) (hfailure : ¬ reply.1.IsSuccess) :
    ∀ question ∈ asked, question.IsQuiet Store.answer := by
  rcases h.quiet_or_call hgoes with hquiet | ⟨call, shown, left, hcall, hshown, hleft, hrest⟩
  · exact hquiet
  · obtain ⟨report, rfl, rfl⟩ := Program.done_eq_bind_done hrest
    cases hresult : report.result with
    | error failure => exact (Ticket.course_of_goes hleft).quiet_of_error hresult
    | ok answer =>
      have hstatus := hshown.ok hresult
      have hsuccess := successStatus_cases call
      rw [Reply.IsSuccess] at hfailure
      omega

theorem quiet_of_read (h : Served route? call? issue program) {rest : Program storeInterface (Reply × List Count)}
    (hgoes : program.Goes Store.answer asked rest) (hread : ∀ call, call? = some call → ∃ id, call = .render id) :
    ∀ question ∈ asked, question.IsQuiet Store.answer := by
  rcases h.quiet_or_call hgoes with hquiet | ⟨call, shown, left, hcall, -, hleft, -⟩
  · exact hquiet
  · obtain ⟨id, rfl⟩ := hread call hcall
    exact Ticket.quiet_of_reads rfl rfl hleft

theorem submitted (h : Served route? call? issue program) {reply : Reply × List Count}
    (hgoes : program.Goes Store.answer asked (.done reply)) (hstatus : reply.1.status = 200)
    (hroute : ∀ route, route? = some route → route.isSubmission = true)
    (hsubmits : ∀ call, call? = some call → ∃ id submission expected, call = .submit id submission expected) :
    ∃ id submission expected found loaded view decision, call? = some (.submit id submission expected) ∧
      View.Seen view id found loaded ∧ view.decide submission expected issue.stamp = .ok decision ∧
      Ticket.Stored id view decision found loaded asked := by
  cases h with
  | refused hcall hreply =>
    obtain ⟨-, hreply'⟩ := hgoes.of_done
    cases hreply'
    have hclient := hreply.1
    simp only at hstatus
    omega
  | counts hmetrics => simpa [Route.isSubmission] using hroute .metrics hmetrics
  | health hhealth => simpa [Route.isSubmission] using hroute .health hhealth
  | @call call shown hcall hshown =>
    obtain ⟨left, hleft, hrest⟩ := hgoes.of_bind_done
    obtain ⟨report, rfl, rfl⟩ := Program.done_eq_bind_done hrest
    obtain ⟨id, submission, expected, rfl⟩ := hsubmits call hcall
    have hcourse : Ticket.Course ⟨.submit id submission expected, issue⟩ asked report := Ticket.course_of_goes hleft
    cases hresult : report.result with
    | ok answer =>
      obtain ⟨found, loaded, view, decision, hseen, hdecide, hstored⟩ := hcourse.submitted rfl hresult
      exact ⟨id, submission, expected, found, loaded, view, decision, hcall, hseen, hdecide, hstored⟩
    | error failure =>
      rw [hshown.error hresult] at hstatus
      cases failure <;> simp [failureReply, Reply.json] at hstatus

end Served

namespace Visits

/-- the requests after a schedule that begins with this store -/
abbrev startedWith (store : Store) (moves : List (Move Visit)) : Visits :=
  World.run Store.answer Visit.program (World.start store) moves

/-- what the request at a place has asked the store in a schedule that begins with this store -/
abbrev askedBy (place : Nat) (store : Store) (moves : List (Move Visit)) : List StoreAsked :=
  World.asked Store.answer Visit.program place (World.start store) moves

/-- does the request at a place never change the store in a schedule that begins with this one -/
abbrev LeavesAlone (place : Nat) (store : Store) (moves : List (Move Visit)) : Prop :=
  World.IsIdle Store.answer Visit.program place (World.start store) moves

/-- **Requests that fail leave no trace.** Let a store hold anything, and let requests come in and be answered in any
order.
- A request that is not answered with success has not changed the store.
- A request that only asks for something never changes the store, whatever the answer and even without one.
- What is handed in for an attempt and answered with success has been decided on by what the store held, and nothing
  else was changed than what was decided: by one change that was carried out, or by none if there was nothing to
  change. -/
theorem failures_leave_no_trace (store : Store) (moves : List (Move Visit)) :
    (∀ ending ∈ (startedWith store moves).endings, ¬ ending.result.1.IsSuccess →
        LeavesAlone ending.place store moves) ∧
      (∀ place visit rest, (startedWith store moves).jobs[place]? = some ⟨visit, rest⟩ →
        visit.request.method ∈ ["GET", "HEAD"] → LeavesAlone place store moves) ∧
      ∀ ending ∈ (startedWith store moves).endings, ∀ route, Route.ofPath? ending.ticket.request.path = some route →
        route.isSubmission = true → ending.result.1.status = 200 →
          ∃ id submission expected found loaded view decision,
            ending.ticket.request.call? = some (.submit id submission expected) ∧ View.Seen view id found loaded ∧
              view.decide submission expected ending.ticket.issue.stamp = .ok decision ∧
              Ticket.Stored id view decision found loaded (askedBy ending.place store moves) := by
  refine ⟨?_, ?_, ?_⟩
  · intro ending hmem hfailure
    exact World.isIdle_of_quiet ((program_served ending.ticket).quiet_of_failure (World.goes_ending hmem) hfailure)
  · intro place visit rest hjob hmethod
    have hread : ∀ call, visit.request.call? = some call → ∃ id, call = .render id :=
      fun call hcall => Request.call?_of_read hmethod hcall
    exact World.isIdle_of_quiet ((program_served visit).quiet_of_read (World.goes_asked hjob) hread)
  · intro ending hmem route hroute hsubmission hstatus
    have hroutes : ∀ other, ending.ticket.request.route? = some other → other.isSubmission = true := by
      intro other hother
      obtain ⟨hsame, -⟩ := Option.filter_eq_some_iff.1 hother
      rw [hroute] at hsame
      cases hsame
      exact hsubmission
    exact (program_served ending.ticket).submitted (World.goes_ending hmem) hstatus hroutes
      fun call hcall => Request.call?_of_submission hroutes hcall

/-- an attempt that can be gone on with, and one whose steps are lost -/
def halfLost : Store :=
  let attempt (id : String) : Attempt := ⟨id, "question", "user", .year2024⟩
  ⟨(Keyed.empty.insert "kept" (attempt "kept")).insert "lost" (attempt "lost"),
    (Keyed.empty.insert "kept" (History.start "kept" ⟨"first", .year2024⟩).steps).insert "lost" []⟩

/-- two responses are handed in at the same time, and somebody asks for the attempt whose steps are lost -/
def rivals : List (Move Visit) :=
  let site : Site := ⟨"memory", "secret"⟩
  let body := Text.Utf8.encode "\x7b\"data\": \x7b\"answer\": \"4\"\x7d, \"mode\": \"append\"\x7d"
  let steps : Request := ⟨"POST", "/api/v1/attempts/kept/steps", [("Content-Type", "application/json")], body⟩
  [.enter ⟨site, [], ⟨"", "second", .year2024⟩, steps⟩, .enter ⟨site, [], ⟨"", "third", .year2024⟩, steps⟩,
    .enter ⟨site, [], ⟨"", "", .year2024⟩, ⟨"GET", "/api/v1/attempts/lost", [], []⟩⟩, .advance 0, .advance 1,
    .advance 1, .advance 0, .advance 0, .advance 2, .advance 1, .advance 2]

theorem failures_leave_no_trace_rivals :
    (startedWith halfLost rivals).endings.map (fun ending => (ending.place, ending.result.1.status)) =
        [(0, 200), (1, 409), (2, 500)] ∧
      LeavesAlone 1 halfLost rivals ∧ LeavesAlone 2 halfLost rivals ∧
      ∃ id found loaded view decision, decision.change.isEmpty = false ∧
        Ticket.Stored id view decision found loaded (askedBy 0 halfLost rivals) := by
  have hstatus : (startedWith halfLost rivals).endings.map (fun ending => (ending.place, ending.result.1.status)) =
      [(0, 200), (1, 409), (2, 500)] := by decide +kernel
  have hthrough : ∃ ending ∈ (startedWith halfLost rivals).endings, ending.place = 0 ∧ ending.result.1.status = 200 ∧
      Route.ofPath? ending.ticket.request.path = some (.steps "kept") := by decide +kernel
  have hasked : (askedBy 0 halfLost rivals).length = 3 := by decide +kernel
  obtain ⟨hfails, -, hsubmits⟩ := failures_leave_no_trace halfLost rivals
  have halone : ∀ place status, (place, status) ∈ [(0, 200), (1, 409), (2, 500)] → 300 ≤ status →
      LeavesAlone place halfLost rivals := by
    intro place status hmem hlarge
    rw [← hstatus] at hmem
    obtain ⟨ending, hending, heq⟩ := List.mem_map.1 hmem
    cases heq
    exact hfails ending hending fun hsuccess => absurd hsuccess.2 (by omega)
  refine ⟨hstatus, halone 1 409 (by simp) (by omega), halone 2 500 (by simp) (by omega), ?_⟩
  · obtain ⟨ending, hmem, hplace, hok, hroute⟩ := hthrough
    obtain ⟨id, submission, expected, found, loaded, view, decision, -, -, -, hstored⟩ :=
      hsubmits ending hmem (.steps "kept") hroute rfl hok
    rw [hplace] at hstored
    refine ⟨id, found, loaded, view, decision, ?_, hstored⟩
    generalize askedBy 0 halfLost rivals = asked at hasked hstored
    cases hstored with
    | nothing hchange => simp at hasked
    | change hchange hcommit => exact hchange

end Visits

end AttemptLog.Web
