import AttemptLog.Proofs.Service.Orderly
import AttemptLog.Proofs.Web.Served
/-!
Requests side by side on one store.

`Handled` lists what the server can do with a request: it replies at once, it asks whether the store is there, or it
carries out one call of the service and shows the report. No reply of the first two kinds is a server error, and one
of the third kind only if the call failed for reasons of its own (`program_handled`). Requests side by side can
therefore be followed by calls side by side (`followed`).
-/
namespace AttemptLog.Web

/-- is a report shown with the status of a server error only if the call failed for reasons of its own -/
def Shows (shown : Report Answer → Reply × List Count) : Prop :=
  ∀ report, (shown report).1.status = 500 → ∃ failure, report.result = .error failure ∧ failure.isInternal = true

/-- what the server can do with a request -/
inductive Handled (issue : Issue) : Program storeInterface (Reply × List Count) → Prop where
  | direct {reply : Reply} {counts : List Count} (hstatus : reply.status ≠ 500) : Handled issue (.done (reply, counts))
  | ping {next : Except Failure Pulse → Program storeInterface (Reply × List Count)}
    (hstatus : ∀ pulse, ∃ reply counts, next pulse = .done (reply, counts) ∧ reply.status ≠ 500) :
    Handled issue (.ask .ping next)
  | call (call : Call) {shown : Report Answer → Reply × List Count} (hshown : Shows shown) :
    Handled issue ((call.program issue).bind fun report => .done (shown report))

theorem failureReply_status {failure : Failure} (h : (failureReply failure).status = 500) :
    failure.isInternal = true := by
  cases failure with
  | notFound id => cases h
  | conflict expected actual => cases h
  | finished id => cases h
  | corrupt id flaw => rfl
  | storage fault => rfl

theorem Tells.shows {status : Nat} {shown : Report Answer → Reply × List Count} (h : Tells status shown)
    (hstatus : status ≠ 500) : Shows shown := by
  intro report hreport
  cases hresult : report.result with
  | ok answer =>
    rw [h.ok hresult] at hreport
    exact absurd hreport hstatus
  | error failure =>
    rw [h.error hresult] at hreport
    exact ⟨failure, rfl, failureReply_status hreport⟩

theorem Served.handled {route? : Option Route} {call? : Option Call} {issue : Issue}
    {program : Program storeInterface (Reply × List Count)} (h : Served route? call? issue program) :
    Handled issue program := by
  cases h with
  | refused hcall hreply => exact .direct (by have := hreply.2; omega)
  | counts hroute hstatus => exact .direct (by omega)
  | health hroute hstatus =>
    refine .ping fun pulse => ?_
    obtain ⟨reply, counts, hnext, hreply⟩ := hstatus pulse
    exact ⟨reply, counts, hnext, by omega⟩
  | @call call shown hcall hshown => exact .call call (hshown.shows (by have := successStatus_cases call; omega))

/-- **What the server does with a request** is one of the three. -/
theorem program_handled (visit : Visit) : Handled visit.issue visit.program := (program_served visit).handled

/-! ## Requests and the calls behind them -/

abbrev Visits := World storeInterface Store Visit (Reply × List Count)

namespace Visits

abbrev step (visits : Visits) (move : Move Visit) : Visits := World.step Store.answer Visit.program visits move

abbrev after (moves : List (Move Visit)) : Visits :=
  World.run Store.answer Visit.program (World.start Store.empty) moves

/-- are all identities different that the server has for requests -/
def IsFresh (moves : List (Move Visit)) : Prop :=
  ((Move.tickets moves).flatMap fun visit => [visit.issue.attemptId, visit.issue.stepId]).Nodup

instance (moves : List (Move Visit)) : Decidable (IsFresh moves) := inferInstanceAs (Decidable (List.Nodup _))

/-- is the request at a place as far as the call at this place, if there is one behind it -/
inductive Along (traffic : Traffic) (place : Nat) : Program storeInterface (Reply × List Count) → Prop where
  | direct {reply : Reply} {counts : List Count} (hstatus : reply.status ≠ 500) :
    Along traffic place (.done (reply, counts))
  | ping {next : Except Failure Pulse → Program storeInterface (Reply × List Count)}
    (hstatus : ∀ pulse, ∃ reply counts, next pulse = .done (reply, counts) ∧ reply.status ≠ 500) :
    Along traffic place (.ask .ping next)
  | call {ticket : Ticket} {rest : Program storeInterface (Report Answer)} {shown : Report Answer → Reply × List Count}
    (hjob : traffic.jobs[place]? = some ⟨ticket, rest⟩) (hshown : Shows shown) :
    Along traffic place (rest.bind fun report => .done (shown report))

theorem Along.of_job {traffic next : Traffic} {place : Nat} {rest : Program storeInterface (Reply × List Count)}
    (h : Along traffic place rest)
    (hjobs : ∀ job, traffic.jobs[place]? = some job → next.jobs[place]? = some job) : Along next place rest := by
  cases h with
  | direct hstatus => exact .direct hstatus
  | ping hstatus => exact .ping hstatus
  | call hjob hshown => exact .call (hjobs _ hjob) hshown

/-- did a call fail for reasons of its own -/
def Fails (traffic : Traffic) : Prop :=
  ∃ ending ∈ traffic.endings, ∃ failure, ending.result.result = .error failure ∧ failure.isInternal = true

theorem Fails.append {traffic next : Traffic} (h : Fails traffic)
    {endings : List (Ending storeInterface Ticket (Report Answer))}
    (hendings : next.endings = traffic.endings ++ endings) :
    Fails next := by
  obtain ⟨ending, hmem, hfailure⟩ := h
  exact ⟨ending, by rw [hendings]; exact List.mem_append_left _ hmem, hfailure⟩

/-- do calls follow requests: they work on the same store, and if a request meets a server error, a call has failed -/
structure Follows (traffic : Traffic) (visits : Visits) : Prop where
  state : traffic.state = visits.state
  length : traffic.jobs.length = visits.jobs.length
  along : ∀ (place : Nat) visit rest, visits.jobs[place]? = some ⟨visit, rest⟩ → Along traffic place rest
  endings : ∀ ending ∈ visits.endings, ending.result.1.status = 500 → Fails traffic

/-- who comes in is followed by a call, or by one that never asks anything if none is needed -/
theorem enter_follows {traffic : Traffic} {visits : Visits} (h : Follows traffic visits) (visit : Visit) :
    ∃ ticket : Ticket, ticket.issue = visit.issue ∧
      Follows (traffic.step (.enter ticket)) (visits.step (.enter visit)) := by
  have hkey : ∃ ticket : Ticket, ticket.issue = visit.issue ∧
      Along (traffic.step (.enter ticket)) visits.jobs.length visit.program ∧
      ∀ ending ∈ endingOf (I := storeInterface) visits.jobs.length visit none visit.program,
        ending.result.1.status ≠ 500 := by
    generalize hprogram : visit.program = program
    have hhandled := program_handled visit
    rw [hprogram] at hhandled
    cases hhandled with
    | direct hstatus =>
      refine ⟨⟨.render "", visit.issue⟩, rfl, .direct hstatus, fun ending hmem => ?_⟩
      obtain rfl := List.mem_singleton.1 hmem
      exact hstatus
    | ping hstatus => exact ⟨⟨.render "", visit.issue⟩, rfl, .ping hstatus, fun ending hmem => nomatch hmem⟩
    | call call hshown =>
      have hnew : (traffic.step (.enter ⟨call, visit.issue⟩)).jobs[visits.jobs.length]? =
          some ⟨⟨call, visit.issue⟩, call.program visit.issue⟩ := by
        rw [← h.length]
        exact World.jobs_enter_new traffic _
      refine ⟨⟨call, visit.issue⟩, rfl, .call hnew hshown, fun ending hmem => ?_⟩
      · obtain ⟨request, next, hasks⟩ := Ticket.program_asks ⟨call, visit.issue⟩
        have hcall : call.program visit.issue = .ask request next := hasks
        rw [hcall] at hmem
        cases hmem
  obtain ⟨ticket, hissue, halong, hstatus⟩ := hkey
  refine ⟨ticket, hissue, ⟨h.state, ?_, fun place visit' rest hjob => ?_, fun ending hmem hserver => ?_⟩⟩
  · simp [Traffic.step, step, World.step, h.length]
  · rcases World.jobs_enter_cases hjob with hold | ⟨rfl, rfl, rfl⟩
    · exact (h.along place visit' rest hold).of_job fun job => World.jobs_enter_old ticket
    · exact halong
  · rcases List.mem_append.1 hmem with hold | hnew
    · exact (h.endings ending hold hserver).append rfl
    · exact absurd hserver (hstatus ending hnew)

theorem ping_follows {traffic : Traffic} {visits : Visits} (h : Follows traffic visits) {place : Nat} {visit : Visit}
    {next : Except Failure Pulse → Program storeInterface (Reply × List Count)}
    (hjob : visits.jobs[place]? = some ⟨visit, .ask .ping next⟩)
    (hstatus : ∀ pulse, ∃ reply counts, next pulse = .done (reply, counts) ∧ reply.status ≠ 500) :
    Follows traffic (visits.step (.advance place)) := by
  obtain ⟨reply, counts, hnext, hreply⟩ := hstatus (Store.answer .ping visits.state).1
  have hstep : visits.step (.advance place) = _ := World.step_ask hjob
  refine ⟨?_, ?_, fun other visit' rest hother => ?_, fun ending hmem hserver => ?_⟩
  · rw [hstep]
    exact h.state
  · rw [step, World.length_advance]
    exact h.length
  · by_cases heq : other = place
    · subst heq
      rw [step, World.jobs_advance_self hjob, hnext] at hother
      cases hother
      exact .direct hreply
    · rw [step, World.jobs_advance_other visits heq] at hother
      exact h.along other visit' rest hother
  · rw [hstep, hnext] at hmem
    rcases List.mem_append.1 hmem with hold | hnew
    · exact h.endings ending hold hserver
    · obtain rfl := List.mem_singleton.1 hnew
      exact absurd hserver hreply

theorem call_follows {traffic : Traffic} {visits : Visits} (h : Follows traffic visits) {place : Nat} {visit : Visit}
    {ticket : Ticket} {request : Query} {go : Except Failure request.Answer → Program storeInterface (Report Answer)}
    {shown : Report Answer → Reply × List Count}
    (hjob : visits.jobs[place]? = some ⟨visit, (Program.ask request go).bind fun report => .done (shown report)⟩)
    (hcall : traffic.jobs[place]? = some ⟨ticket, .ask request go⟩) (hshown : Shows shown) :
    Follows (traffic.step (.advance place)) (visits.step (.advance place)) := by
  have hvisits : visits.step (.advance place) = _ := World.step_ask hjob
  have htraffic : traffic.step (.advance place) = _ := World.step_ask hcall
  rw [h.state] at htraffic
  refine ⟨?_, ?_, fun other visit' rest hother => ?_, fun ending hmem hserver => ?_⟩
  · rw [hvisits, htraffic]
  · rw [step, Traffic.step, World.length_advance, World.length_advance]
    exact h.length
  · by_cases heq : other = place
    · subst heq
      have hself : (traffic.step (.advance other)).jobs[other]? = _ := World.jobs_advance_self hcall
      rw [step, World.jobs_advance_self hjob, ← h.state] at hother
      cases hother
      exact .call hself hshown
    · rw [step, World.jobs_advance_other visits heq] at hother
      refine (h.along other visit' rest hother).of_job fun job hold => ?_
      rwa [Traffic.step, World.jobs_advance_other traffic heq]
  · rw [hvisits] at hmem
    rcases List.mem_append.1 hmem with hold | hnew
    · exact (h.endings ending hold hserver).append (by rw [htraffic])
    · obtain ⟨report, hreport, hresult⟩ := mem_endingOf_bind hnew ticket
      rw [hresult] at hserver
      obtain ⟨failure, hfailure⟩ := hshown report hserver
      rw [htraffic]
      exact ⟨_, List.mem_append_right _ hreport, failure, hfailure⟩

/-- a question is followed by the same question of the call, or by nothing -/
theorem advance_follows {traffic : Traffic} {visits : Visits} (h : Follows traffic visits) (place : Nat) :
    Follows traffic (visits.step (.advance place)) ∨
      Follows (traffic.step (.advance place)) (visits.step (.advance place)) := by
  rcases World.step_advance_cases Store.answer Visit.program visits place with hsame | ⟨visit, request, next, hjob⟩
  · refine .inl ?_
    rw [step, hsame]
    exact h
  · have halong := h.along place visit _ hjob
    generalize hprogram : Program.ask (I := storeInterface) request next = program at halong hjob
    cases halong with
    | direct hstatus => cases hprogram
    | ping hstatus => exact .inl (ping_follows h hjob hstatus)
    | @call ticket rest shown hcall hshown =>
      cases rest with
      | done report => cases hprogram
      | ask request go => exact .inr (call_follows h hjob hcall hshown)

/-- **Requests side by side are followed by calls side by side**, to which the same was issued. -/
theorem followed (moves : List (Move Visit)) :
    ∃ calls : List (Move Ticket), Follows (Traffic.after calls) (after moves) ∧
      (Move.tickets calls).map (·.issue) = (Move.tickets moves).map (·.issue) := by
  induction moves using List.reverseRecOn with
  | nil =>
    refine ⟨[], ⟨rfl, rfl, fun place visit rest hjob => ?_, fun ending hmem => ?_⟩, rfl⟩
    · cases hjob
    · cases hmem
  | append_singleton moves move ih =>
    obtain ⟨calls, hfollows, hissues⟩ := ih
    have hstep : after (moves ++ [move]) = (after moves).step move := World.run_concat _ _ _
    rw [hstep]
    cases move with
    | enter visit =>
      obtain ⟨ticket, hissue, hnext⟩ := enter_follows hfollows visit
      refine ⟨calls ++ [.enter ticket], by rwa [Traffic.after_concat], ?_⟩
      rw [Move.tickets_append, Move.tickets_append, List.map_append, List.map_append, hissues]
      simp [Move.tickets, Move.ticket?, hissue]
    | advance place =>
      rw [Move.tickets_append]
      rcases advance_follows hfollows place with hnext | hnext
      · refine ⟨calls, hnext, ?_⟩
        rw [hissues]
        simp [Move.tickets, Move.ticket?]
      · refine ⟨calls ++ [.advance place], by rwa [Traffic.after_concat], ?_⟩
        rw [Move.tickets_append, List.map_append, List.map_append, hissues]
        rfl

theorem ids_sublist (tickets : List Ticket) :
    (tickets.flatMap Ticket.ids).Sublist
      ((tickets.map (·.issue)).flatMap fun issue => [issue.attemptId, issue.stepId]) := by
  induction tickets with
  | nil => exact List.Sublist.refl _
  | cons ticket rest ih =>
    rw [List.flatMap_cons, List.map_cons, List.flatMap_cons]
    refine List.Sublist.append ?_ ih
    obtain ⟨call, issue⟩ := ticket
    cases call with
    | start questionId userId => exact List.Sublist.refl _
    | submit id submission expected => exact List.sublist_cons_self _ _
    | _ => exact List.nil_sublist _

theorem IsFresh.of_follows {moves : List (Move Visit)} {calls : List (Move Ticket)} (h : IsFresh moves)
    (hissues : (Move.tickets calls).map (·.issue) = (Move.tickets moves).map (·.issue)) : Traffic.IsFresh calls := by
  refine List.Nodup.sublist (ids_sublist (Move.tickets calls)) ?_
  rw [hissues, List.flatMap_map]
  exact h

/-- **A store that calls work on stays orderly, and nobody meets a server error.** Let calls, or requests, come in and
be answered in any order, beginning with an empty store and with identities that are all different, and let there be
room for the numbers of all steps. Then attempts and logs go together, all logs are read back, and no call fails
because its steps are corrupt or the store cannot do what it is asked; so no request is answered with a server
error. -/
theorem orderly_and_unfailing :
    (∀ moves : List (Move Ticket), Traffic.IsFresh moves → (Traffic.after moves).state.HasRoom →
        (Traffic.after moves).state.Orderly ∧
          ∀ ending ∈ (Traffic.after moves).endings, ∀ failure, ending.result.result = .error failure →
            failure.isInternal = false) ∧
      ∀ moves : List (Move Visit), IsFresh moves → (after moves).state.HasRoom →
        (after moves).state.Orderly ∧ ∀ ending ∈ (after moves).endings, ending.result.1.status ≠ 500 := by
  constructor
  · intro moves hfresh hroom
    exact ⟨Traffic.after_orderly hfresh hroom, fun ending hmem failure hfailure =>
      Traffic.no_internal_failure hfresh hroom hmem hfailure⟩
  · intro moves hfresh hroom
    obtain ⟨calls, hfollows, hissues⟩ := followed moves
    have hfreshCalls := hfresh.of_follows hissues
    rw [← hfollows.state] at hroom ⊢
    refine ⟨Traffic.after_orderly hfreshCalls hroom, fun ending hmem hserver => ?_⟩
    obtain ⟨failed, hfailed, failure, hfailure, hinternal⟩ := hfollows.endings ending hmem hserver
    rw [Traffic.no_internal_failure hfreshCalls hroom hfailed hfailure] at hinternal
    cases hinternal

/-- an attempt begins, and a draft is saved; a save that replaces it and a rival both read it before either of them
hands its change in -/
def overtakingCalls : List (Move Ticket) :=
  let submit submission stepId : Move Ticket := .enter ⟨.submit "attempt" submission none, ⟨"", stepId, .year2024⟩⟩
  [.enter ⟨.start "question" "user", ⟨"attempt", "first", .year2024⟩⟩, .advance 0,
    submit (.autosave (Keyed.empty.insert "answer" "4")) "draft", .advance 1, .advance 1, .advance 1,
    submit (.save (Keyed.empty.insert "answer" "42")) "saved", submit (.finish Keyed.empty) "rival",
    .advance 2, .advance 2, .advance 3, .advance 3, .advance 2, .advance 3]

/-- the same in requests -/
def overtakingVisits : List (Move Visit) :=
  let post (issue : Issue) (path body : String) : Move Visit :=
    .enter ⟨⟨"memory", "secret"⟩, [], issue,
      ⟨"POST", path, [("Content-Type", "application/json")], Text.Utf8.encode body⟩⟩
  [post ⟨"attempt", "first", .year2024⟩ "/api/v1/attempts"
      "\x7b\"question_id\": \"question\", \"user_id\": \"user\"\x7d", .advance 0,
    post ⟨"unused", "draft", .year2024⟩ "/api/v1/attempts/attempt/autosave"
      "\x7b\"data\": \x7b\"answer\": \"4\"\x7d\x7d", .advance 1, .advance 1, .advance 1,
    post ⟨"idle", "saved", .year2024⟩ "/api/v1/attempts/attempt/steps"
      "\x7b\"data\": \x7b\"answer\": \"42\"\x7d\x7d",
    post ⟨"spare", "rival", .year2024⟩ "/api/v1/attempts/attempt/steps"
      "\x7b\"data\": \x7b\x7d, \"mode\": \"finish\"\x7d",
    .advance 2, .advance 2, .advance 3, .advance 3, .advance 2, .advance 3]

/-- the draft is replaced, the rival is refused, and the log stays as it must be -/
theorem orderly_and_unfailing_overtaken :
    Traffic.IsFresh overtakingCalls ∧ (Traffic.after overtakingCalls).state.HasRoom ∧
      (Traffic.after overtakingCalls).state.Orderly ∧
      ((Traffic.after overtakingCalls).state.stepsOf "attempt").map Step.id = ["first", "saved"] ∧
      IsFresh overtakingVisits ∧ (after overtakingVisits).state.HasRoom ∧ (after overtakingVisits).state.Orderly ∧
      ((after overtakingVisits).state.stepsOf "attempt").map Step.id = ["first", "saved"] ∧
      (after overtakingVisits).endings.map (·.result.1.status) = [201, 200, 200, 409] := by
  have hcalls : Traffic.IsFresh overtakingCalls ∧ (Traffic.after overtakingCalls).state.HasRoom := by decide +kernel
  have hvisits : IsFresh overtakingVisits ∧ (after overtakingVisits).state.HasRoom := by decide +kernel
  obtain ⟨hservice, hweb⟩ := orderly_and_unfailing
  exact ⟨hcalls.1, hcalls.2, (hservice _ hcalls.1 hcalls.2).1, by decide +kernel, hvisits.1, hvisits.2,
    (hweb _ hvisits.1 hvisits.2).1, by decide +kernel, by decide +kernel⟩

end Visits

end AttemptLog.Web
