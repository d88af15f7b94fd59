import AttemptLog.Proofs.Service.Moments
/-!
Calls side by side come to the same as calls one after another.

The calls that ended are in order of their last questions: a call that changed something stands where its change was
carried out, every other one where it read last. `serializable` says that the calls alone, in this order and on a
store that is empty at first, give the same reports and the same store. Only calls whose change was refused are left
out; they change nothing, and each was overtaken by another change of the same attempt.
-/
namespace AttemptLog

abbrev Ended := Ending storeInterface Ticket (Report Answer)

/-- was the change refused that the call handed in -/
def Ended.wasRefused (ending : Ended) : Bool :=
  match ending.last with
  | some request => Query.isCommit request && !ending.result.result.isOk
  | none => false

/-- the reports of calls one after another, and the store after them -/
def Store.serve (store : Store) : List Ticket → List (Report Answer) × Store
  | [] => ([], store)
  | ticket :: rest =>
    let (report, next) := ticket.perform store
    let (reports, final) := next.serve rest
    (report :: reports, final)

theorem Store.serve_concat (store : Store) (tickets : List Ticket) (ticket : Ticket) :
    store.serve (tickets ++ [ticket]) =
      ((store.serve tickets).1 ++ [(ticket.perform (store.serve tickets).2).1],
        (ticket.perform (store.serve tickets).2).2) := by
  induction tickets generalizing store with
  | nil => rfl
  | cons head rest ih => simp only [List.cons_append, serve, ih]

namespace Traffic

/-- the calls that were carried out, in order of their last questions -/
def carriedOut (traffic : Traffic) : List Ended := traffic.endings.filter fun ending => !Ended.wasRefused ending

/-- did the call read the steps of an attempt, and then another one's change of them go through before its own was
refused, which changed nothing -/
def Overtaken (moves : List (Move Ticket)) (ending : Ended) : Prop :=
  ∃ loading early other late rest id expected change submission,
    let before := loading ++ .advance ending.place :: (early ++ .advance other :: late)
    moves = before ++ .advance ending.place :: rest ∧
      (after loading).asks? ending.place = some (.load id) ∧
      other ≠ ending.place ∧ Commits (after (loading ++ .advance ending.place :: early)) id other ∧
      (after before).asks? ending.place = some (.commit id expected change) ∧
      (after (before ++ [.advance ending.place])).state = (after before).state ∧
      ending.result = Submission.refused submission
        (.conflict expected (Store.lastId ((after before).state.stepsOf id)))

/-- a move carries out one call as if it was alone, or none and then the store stays as it is -/
theorem step_carriedOut {traffic : Traffic} (h : Inv traffic) (move : Move Ticket) :
    ((traffic.step move).carriedOut = traffic.carriedOut ∧ (traffic.step move).state = traffic.state) ∨
      ∃ ending : Ended, (traffic.step move).carriedOut = traffic.carriedOut ++ [ending] ∧
        ending.ticket.perform traffic.state = (ending.result, (traffic.step move).state) := by
  cases move with
  | enter ticket =>
    obtain ⟨request, next, hprogram⟩ := ticket.program_asks
    refine .inl ⟨?_, rfl⟩
    simp [carriedOut, Traffic.step, World.step, hprogram, endingOf]
  | advance place =>
    rcases World.step_advance_cases Store.answer Ticket.program traffic place with hsame | ⟨ticket, request, next, hjob⟩
    · refine .inl ?_
      rw [Traffic.step, hsame]
      exact ⟨rfl, rfl⟩
    · obtain ⟨rest, state, hanswered, hstep⟩ := answered_step h hjob
      rw [hstep]
      cases hanswered with
      | goesOn hphase => exact .inl ⟨by simp [carriedOut, endingOf], rfl⟩
      | refused hrequest hsteps hlast =>
        subst hrequest
        exact .inl ⟨by simp [carriedOut, endingOf, Ended.wasRefused, Query.isCommit, Submission.refused, Except.isOk,
          Except.toBool], rfl⟩
      | performs hcommit =>
        refine .inr ⟨⟨place, ticket, some request, (ticket.perform traffic.state).1⟩, ?_, rfl⟩
        have hkept : Ended.wasRefused ⟨place, ticket, some request, (ticket.perform traffic.state).1⟩ = false := by
          cases hisCommit : Query.isCommit request with
          | false => simp [Ended.wasRefused, hisCommit]
          | true =>
            obtain ⟨answer, hok⟩ := hcommit hisCommit
            simp [Ended.wasRefused, hok, Except.isOk, Except.toBool]
        simp [carriedOut, endingOf, hkept]

/-- the calls that were carried out, alone and one after another, give the same reports and the same store -/
theorem serve_carriedOut {moves : List (Move Ticket)} (hfresh : IsFresh moves) :
    Store.empty.serve ((after moves).carriedOut.map (·.ticket)) =
      ((after moves).carriedOut.map (·.result), (after moves).state) := by
  induction moves using List.reverseRecOn with
  | nil => rfl
  | append_singleton moves move ih =>
    have hserve := ih hfresh.of_append
    rw [after_concat]
    rcases step_carriedOut (after_inv hfresh.of_append) move with ⟨hcarried, hstate⟩ | ⟨ending, hcarried, hperform⟩
    · rw [hcarried, hstate]
      exact hserve
    · rw [hcarried, List.map_append, List.map_singleton, Store.serve_concat, hserve]
      simp only [hperform, List.map_append, List.map_singleton]

/-- a call whose change was refused was overtaken -/
theorem overtaken_of_wasRefused {moves : List (Move Ticket)} (hfresh : IsFresh moves) {ending : Ended}
    (hmem : ending ∈ (after moves).endings) (hrefused : Ended.wasRefused ending = true) : Overtaken moves ending := by
  obtain ⟨before, rest, request, next, rfl, hlast, hjob, -, hanswered⟩ := ending_answered hfresh hmem
  generalize hstate : (after (before ++ [.advance ending.place])).state = state at hanswered
  generalize hreport : ending.result = report at hanswered
  cases hanswered with
  | performs hcommit =>
    rw [Ended.wasRefused, hlast, hreport] at hrefused
    simp only [Bool.and_eq_true, Bool.not_eq_true'] at hrefused
    obtain ⟨answer, hok⟩ := hcommit hrefused.1
    rw [hok] at hrefused
    cases hrefused.2
  | @refused id expected change submission steps hrequest hsteps hne =>
    subst hrequest
    obtain ⟨loading, early, other, late, rfl, hload, hother, hcommits⟩ :=
      commit_between hfresh.of_append hjob hsteps hne
    rw [← Store.stepsOf_of_get? hsteps] at hreport
    exact ⟨loading, early, other, late, rest, id, expected, change, submission, rfl, hload, hother, hcommits,
      asks?_of_job hjob, hstate, hreport⟩

/-- **Calls side by side are serializable.** Let calls come in and be answered in any order, beginning with an empty
store and with identities that are all different.

- The calls that were carried out, alone and in order of their last questions, give the same reports and the same
  store.
- Each call that is done has exactly one ending.
- Each ending belongs to the move in which the call was answered for the last time, when those before it had ended.
- A call whose change was refused was overtaken: it changed nothing, and another one's change of the same attempt went
  through since it had read the steps. -/
theorem serializable {moves : List (Move Ticket)} (hfresh : IsFresh moves) :
    Store.empty.serve ((after moves).carriedOut.map (·.ticket)) =
        ((after moves).carriedOut.map (·.result), (after moves).state) ∧
      (after moves).Settled ∧
      (∀ front ending back, (after moves).endings = front ++ ending :: back →
        ∃ before rest, moves = before ++ .advance ending.place :: rest ∧ (after before).endings = front ∧
          (after before).EndsNext Store.answer ending) ∧
      ∀ ending ∈ (after moves).endings, Ended.wasRefused ending = true → Overtaken moves ending :=
  ⟨serve_carriedOut hfresh, World.run_settled _ _, fun _ _ _ hsplit => World.run_endings Ticket.program_asks hsplit,
    fun _ hmem hrefused => overtaken_of_wasRefused hfresh hmem hrefused⟩

/-- an attempt begins, and then two calls read its steps before either of them hands its change in -/
def race : List (Move Ticket) :=
  let submit submission stepId : Move Ticket := .enter ⟨.submit "attempt" submission none, ⟨"", stepId, .year2024⟩⟩
  [.enter ⟨.start "question" "user", ⟨"attempt", "first", .year2024⟩⟩, .advance 0,
    submit (.append Keyed.empty) "second", submit (.grade .graded none) "third",
    .advance 1, .advance 1, .advance 2, .advance 2, .advance 1, .advance 2]

theorem serializable_race :
    IsFresh race ∧
      Store.empty.serve ((after race).carriedOut.map (·.ticket)) =
        ((after race).carriedOut.map (·.result), (after race).state) ∧
      (after race).carriedOut.map (·.place) = [0, 1] ∧
      ∃ ending ∈ (after race).endings, ending.place = 2 ∧ Overtaken race ending := by
  have hfresh : IsFresh race := by decide
  obtain ⟨hserve, -, -, hrefused⟩ := serializable hfresh
  have hmem : ∃ ending ∈ (after race).endings, ending.place = 2 ∧ Ended.wasRefused ending = true := by decide
  obtain ⟨ending, hending, hplace, hwas⟩ := hmem
  exact ⟨hfresh, hserve, by decide, ending, hending, hplace, hrefused ending hending hwas⟩

end Traffic

end AttemptLog
