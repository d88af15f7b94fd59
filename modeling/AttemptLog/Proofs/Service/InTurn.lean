import AttemptLog.Proofs.Service.Orderly
/-!
Calls that come in one after another.

A call that has all its turns to itself does what it would do alone (`run_eq_perform`). If every call comes in when
the one before has come to its end, the store is therefore what `Ticket.perform` makes of it, call by call
(`state_inTurn_concat`). All that holds of every schedule holds of this one.
-/
namespace AttemptLog.Traffic

/-- calls that come in one after another, each with all its turns -/
def inTurn (tickets : List Ticket) : List (Move Ticket) :=
  tickets.zipIdx.flatMap fun (ticket, place) => .enter ticket :: List.replicate 3 (.advance place)

theorem inTurn_concat (tickets : List Ticket) (ticket : Ticket) :
    inTurn (tickets ++ [ticket]) =
      inTurn tickets ++ [.enter ticket] ++ List.replicate 3 (.advance tickets.length) := by
  simp [inTurn, List.zipIdx_append]

theorem inTurn_prefix {tickets more : List Ticket} (h : tickets <+: more) : inTurn tickets <+: inTurn more := by
  obtain ⟨rest, rfl⟩ := h
  rw [inTurn, inTurn, List.zipIdx_append, List.flatMap_append]
  exact List.prefix_append _ _

theorem tickets_inTurn (tickets : List Ticket) : Move.tickets (inTurn tickets) = tickets := by
  induction tickets using List.reverseRecOn with
  | nil => rfl
  | append_singleton tickets ticket ih =>
    rw [inTurn_concat, Move.tickets_append, Move.tickets_append, ih]
    simp [Move.tickets, Move.ticket?, List.replicate]

theorem isFresh_inTurn {tickets : List Ticket} : IsFresh (inTurn tickets) ↔ (tickets.flatMap Ticket.ids).Nodup := by
  rw [IsFresh, tickets_inTurn]

theorem spent_inTurn {tickets : List Ticket} {id : String} (h : Spent (after (inTurn tickets)) id) :
    ∃ ticket ∈ tickets, id ∈ ticket.ids := by
  obtain ⟨ending, hmem, hid⟩ := h
  have hdone := (World.run_settled Store.empty (inTurn tickets)).done ending hmem
  have hticket : ending.ticket ∈ (after (inTurn tickets)).tickets :=
    List.mem_map_of_mem (f := Job.ticket) (List.mem_of_getElem? hdone)
  rw [tickets_after, tickets_inTurn] at hticket
  exact ⟨ending.ticket, hticket, hid⟩

theorem not_spent_inTurn {tickets : List Ticket} {ticket : Ticket}
    (hfresh : ((tickets ++ [ticket]).flatMap Ticket.ids).Nodup) {id : String} (hid : id ∈ ticket.ids) :
    ¬ Spent (after (inTurn tickets)) id := by
  intro hspent
  obtain ⟨other, hother, hid'⟩ := spent_inTurn hspent
  rw [List.flatMap_append, List.flatMap_singleton] at hfresh
  exact List.disjoint_of_nodup_append hfresh (List.mem_flatMap_of_mem hother hid') hid

/-! ## A call alone -/

theorem conclude_run {traffic : Traffic} (h : Sane traffic) {ticket : Ticket} {id : String}
    (htarget : ticket.call.target? = some id) :
    (ticket.call.conclude ticket.issue (traffic.state.view id)).run Store.answer traffic.state =
      ticket.perform traffic.state := by
  obtain ⟨call, issue⟩ := ticket
  cases call with
  | start questionId userId => cases htarget
  | submit other submission expected =>
    cases htarget
    simp only [Ticket.perform, Store.decide]
    cases hview : traffic.state.view id with
    | error failure => simp [Call.conclude, Program.run, Submission.refused, Store.isConflict_view hview]
    | ok view =>
      cases hdecide : view.decide submission expected issue.stamp with
      | error failure => simp only [Call.conclude, hdecide, Program.run]
      | ok decision =>
        cases hempty : decision.change.isEmpty with
        | true =>
          simp only [Call.conclude, hdecide, hempty, ite_true, Program.run, Store.keep_of_isEmpty hview hdecide hempty]
        | false =>
          simp only [Call.conclude, hdecide, hempty, Bool.false_eq_true, ite_false, Program.run,
            answer_commit h hview hdecide, afterCommit]
  | _ =>
    cases htarget
    rfl

/-- **A call that has all its turns to itself does what it does alone.** -/
theorem run_eq_perform {traffic : Traffic} (h : Sane traffic) (ticket : Ticket) :
    ticket.program.run Store.answer traffic.state = ticket.perform traffic.state := by
  rcases ticket.program_cases with ⟨questionId, userId, hcall, hprogram⟩ | ⟨id, htarget, hprogram⟩
  · rw [hprogram]
    cases hcontains : traffic.state.attempts.contains ticket.issue.attemptId with
    | true => simp only [Program.run, Store.answer, Store.create, Issue.newView, hcontains, ite_true, Store.settle,
        afterCreate, Ticket.perform, hcall]
    | false =>
      simp only [Program.run, Store.answer, Store.create, Issue.newView, hcontains, Bool.false_eq_true, ite_false,
        Store.settle, afterCreate, Ticket.perform, hcall]
      rfl
  · rw [← conclude_run h htarget]
    exact Call.run_program htarget ticket.issue traffic.state

/-- **Each call finds what the calls before it have made of the store.** -/
theorem state_inTurn_concat {tickets : List Ticket} {ticket : Ticket}
    (hfresh : ((tickets ++ [ticket]).flatMap Ticket.ids).Nodup) :
    (after (inTurn (tickets ++ [ticket]))).state = (ticket.perform (after (inTurn tickets)).state).2 := by
  rw [← isFresh_inTurn, inTurn_concat] at hfresh
  have hinv := after_inv hfresh.of_append.of_append
  have hjob := jobs_entered (inTurn tickets) ticket
  rw [tickets_inTurn] at hjob
  have hrun : after (inTurn (tickets ++ [ticket])) =
      (after (inTurn tickets ++ [.enter ticket])).run Store.answer Ticket.program
        (List.replicate 3 (.advance tickets.length)) := by
    simp [inTurn_concat, after, World.run]
  rw [hrun, World.run_turns hjob ticket.program_endsWithin, after_concat, ← run_eq_perform hinv.toSane]
  rfl

end AttemptLog.Traffic
