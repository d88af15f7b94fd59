import AttemptLog.Proofs.Service.Traffic
/-!
How far a call has come, and what its next question does.

A call asks three questions at most, and others can ask theirs in between. `Phase` says for each of the questions what
the call relies on: that an attempt which was found is there for good, and that a decision was made on the steps as
they were at some earlier moment. `answered` says what becomes of a question: the call goes on; or it ends, and then
it has reported and stored what it would have if it had been alone from its first question on; or its change was
decided on another last step, and is refused.

`after_inv` and `after_grows` say that this is so after every schedule, and how later moments come from earlier ones.
-/
namespace AttemptLog

theorem Ticket.program_asks (ticket : Ticket) : ∃ request next, ticket.program = .ask request next := by
  rcases ticket.program_cases with ⟨questionId, userId, -, hprogram⟩ | ⟨id, -, hprogram⟩
  · exact ⟨_, _, hprogram⟩
  · exact ⟨_, _, hprogram⟩

theorem Call.conclude_endsWithin (call : Call) (issue : Issue) (viewed : Except Failure View) (turns : Nat) :
    (call.conclude issue viewed).EndsWithin (turns + 1) := by
  cases call with
  | submit id submission expected =>
    cases viewed with
    | error failure => trivial
    | ok view =>
      simp only [conclude]
      cases view.decide submission expected issue.stamp with
      | error failure => trivial
      | ok decision =>
        simp only
        split
        · trivial
        · intro reply
          cases reply <;> exact Program.endsWithin_done _ _
  | _ => trivial

theorem Ticket.program_endsWithin (ticket : Ticket) : ticket.program.EndsWithin 3 := by
  rcases ticket.program_cases with ⟨questionId, userId, -, hprogram⟩ | ⟨id, -, hprogram⟩
  · rw [hprogram]
    intro reply
    cases reply <;> exact Program.endsWithin_done _ _
  · rw [hprogram]
    intro found
    cases found with
    | error failure => exact Call.conclude_endsWithin _ _ _ 1
    | ok found =>
      cases found with
      | none => exact Call.conclude_endsWithin _ _ _ 1
      | some attempt =>
        intro loaded
        cases loaded <;> exact Call.conclude_endsWithin _ _ _ 0

namespace Store

theorem view_of_get? {store : Store} {id : String} {attempt : Attempt} (h : store.attempts.get? id = some attempt) :
    store.view id = (History.ofSteps id (store.stepsOf id)).map (View.mk attempt) := by
  simp [view, h]

theorem isConflict_view {store : Store} {id : String} {failure : Failure} (h : store.view id = .error failure) :
    failure.isConflict = false := by
  rcases view_eq_error h with ⟨-, rfl⟩ | ⟨-, hsteps⟩
  · rfl
  · obtain ⟨flaw, rfl⟩ := History.ofSteps_eq_error hsteps
    rfl

theorem commit_eq_ok {store next : Store} {id expected : String} {change : Change}
    (h : store.commit id expected change = .ok next) :
    ∃ before after, store.steps.get? id = some before ∧ lastId before = expected ∧ change.apply before = .ok after ∧
      next = { store with steps := store.steps.insert id after } := by
  unfold commit at h
  split at h
  · cases h
  · next before hbefore =>
    split at h
    · cases h
    · next hlast =>
      cases happly : change.apply before with
      | error failure =>
        rw [happly] at h
        cases h
      | ok after =>
        rw [happly] at h
        cases h
        exact ⟨before, after, hbefore, by simpa using hlast, happly, rfl⟩

/-- a change that applies to the stored steps is carried out if it comes with the last one -/
theorem answer_commit_of_apply {store : Store} {id : String} {before after : List Step} {change : Change}
    (hbefore : store.steps.get? id = some before) (happly : change.apply before = .ok after) :
    answer (.commit id (lastId before) change) store =
      (.ok (), { store with steps := store.steps.insert id after }) := by
  simp only [answer, commit, hbefore, ne_eq, not_true, ite_false, happly]
  rfl

end Store

/-- **A call on an attempt ends as it does once the attempt was read**, if nobody else is at work. -/
theorem Call.run_program {call : Call} {id : String} (h : call.target? = some id) (issue : Issue) (store : Store) :
    (call.program issue).run Store.answer store = (call.conclude issue (store.view id)).run Store.answer store := by
  rw [Call.program_eq h]
  cases hattempt : store.attempts.get? id with
  | none =>
    have hview : store.view id = .error (.notFound id) := by simp [Store.view, hattempt]
    simp only [Program.run, Store.answer, hattempt, afterFind, hview]
  | some attempt =>
    simp only [Program.run, Store.answer, hattempt, afterFind, afterLoad, Store.view_of_get? hattempt]

namespace Traffic

inductive Phase (traffic : Traffic) (ticket : Ticket) : Program storeInterface (Report Answer) → Prop where
  /-- it asked nothing yet -/
  | entered : Phase traffic ticket ticket.program
  /-- it found the attempt, and asks for its steps -/
  | found {id : String} {attempt : Attempt} (htarget : ticket.call.target? = some id)
    (hattempt : traffic.state.attempts.get? id = some attempt) :
    Phase traffic ticket (.ask (.load id) (afterLoad id attempt (ticket.call.conclude ticket.issue)))
  /-- it decided on a view of the attempt as it was once, and hands the change in -/
  | decided {id : String} {submission : Submission} {expected : Option String} {earlier : Traffic} {view : View}
    {decision : Decision} (hcall : ticket.call = .submit id submission expected) (hsane : Sane earlier)
    (hgrows : Grows earlier traffic) (hview : earlier.state.view id = .ok view)
    (hdecide : view.decide submission expected ticket.issue.stamp = .ok decision)
    (hchange : decision.change.isEmpty = false) :
    Phase traffic ticket (.ask (.commit id view.history.last.id decision.change) (afterCommit submission decision))
  | done (report : Report Answer) : Phase traffic ticket (.done report)

theorem Phase.of_grows {earlier later : Traffic} {ticket : Ticket} {rest : Program storeInterface (Report Answer)}
    (h : Phase earlier ticket rest) (hgrows : Grows earlier later) : Phase later ticket rest := by
  cases h with
  | entered => exact .entered
  | found htarget hattempt => exact .found htarget (hgrows.attempts _ _ hattempt)
  | decided hcall hsane hearlier hview hdecide hchange =>
    exact .decided hcall hsane (hearlier.trans hsane hgrows) hview hdecide hchange
  | done report => exact .done report

/-- what becomes of a question: what is left of the call, and the store -/
inductive Answered (traffic : Traffic) (ticket : Ticket) (request : Query) :
    Program storeInterface (Report Answer) → Store → Prop where
  | goesOn {further : Query} {next : Except Failure further.Answer → Program storeInterface (Report Answer)}
    (hphase : Phase traffic ticket (.ask further next)) :
      Answered traffic ticket request (.ask further next) traffic.state
  | performs (hcommit : request.isCommit = true → ∃ answer, (ticket.perform traffic.state).1.result = .ok answer) :
    Answered traffic ticket request (.done (ticket.perform traffic.state).1) (ticket.perform traffic.state).2
  | refused {id expected : String} {change : Change} {submission : Submission} {steps : List Step}
    (hrequest : request = .commit id expected change) (hsteps : traffic.state.steps.get? id = some steps)
    (hlast : Store.lastId steps ≠ expected) :
    Answered traffic ticket request (.done (submission.refused (.conflict expected (Store.lastId steps)))) traffic.state

/-! ## The last question but one -/

/-- once an attempt was viewed, a call reports what it would if it was alone, or it has a change to hand in -/
theorem conclude_answered {traffic : Traffic} (h : Sane traffic) {ticket : Ticket} {id : String}
    (htarget : ticket.call.target? = some id) {request : Query} (hrequest : request.isCommit = false) :
    Answered traffic ticket request (ticket.call.conclude ticket.issue (traffic.state.view id)) traffic.state := by
  have hdone : ∀ report, (ticket.perform traffic.state) = (report, traffic.state) →
      Answered traffic ticket request (.done report) traffic.state := by
    intro report hperform
    have hanswered : Answered traffic ticket request (.done (ticket.perform traffic.state).1)
        (ticket.perform traffic.state).2 := by
      refine .performs fun hcommit => ?_
      rw [hrequest] at hcommit
      cases hcommit
    rwa [hperform] at hanswered
  obtain ⟨call, issue⟩ := ticket
  cases call with
  | start questionId userId => cases htarget
  | render other | load other | size other | last other =>
    cases htarget
    exact hdone _ rfl
  | submit other submission expected =>
    cases htarget
    cases hview : traffic.state.view id with
    | error failure =>
      refine hdone _ ?_
      simp [Ticket.perform, Store.decide, hview, Submission.refused, Store.isConflict_view hview]
    | ok view =>
      cases hdecide : view.decide submission expected issue.stamp with
      | error failure =>
        simp only [Call.conclude, hdecide]
        refine hdone _ ?_
        simp [Ticket.perform, Store.decide, hview, hdecide]
      | ok decision =>
        cases hempty : decision.change.isEmpty with
        | true =>
          simp only [Call.conclude, hdecide, hempty, ite_true]
          refine hdone _ ?_
          simp [Ticket.perform, Store.decide, hview, hdecide, Store.keep_of_isEmpty hview hdecide hempty]
        | false =>
          simp only [Call.conclude, hdecide, hempty, Bool.false_eq_true, ite_false]
          exact .goesOn (.decided rfl h (.refl _) hview hdecide hempty)

/-! ## The last question -/

theorem answer_commit {traffic : Traffic} (h : Sane traffic) {id : String} {submission : Submission}
    {expected : Option String} {stamp : Stamp} {view : View} {decision : Decision}
    (hview : traffic.state.view id = .ok view) (hdecide : view.decide submission expected stamp = .ok decision) :
    Store.answer (.commit id view.history.last.id decision.change) traffic.state =
      (.ok (), traffic.state.keep id decision.history) := by
  have hsteps := Store.get?_of_view hview
  have heffect := History.submit_effect (View.decide_eq_ok hdecide).2
  have happly := heffect.apply_change (h.kept id _ hsteps).distinct
  rw [← Store.lastId_steps]
  exact Store.answer_commit_of_apply hsteps happly

/-- **A change whose last step is still the last one does what the call would do now.** The last step tells that all the
steps are those that the call decided on. -/
theorem commit_answered {earlier traffic : Traffic} (h : Sane traffic) {ticket : Ticket} {id : String}
    {submission : Submission} {expected : Option String} {view : View} {decision : Decision}
    (hcall : ticket.call = .submit id submission expected) (hsane : Sane earlier) (hgrows : Grows earlier traffic)
    (hview : earlier.state.view id = .ok view)
    (hdecide : view.decide submission expected ticket.issue.stamp = .ok decision) :
    Answered traffic ticket (.commit id view.history.last.id decision.change)
      (afterCommit submission decision
        (Store.answer (.commit id view.history.last.id decision.change) traffic.state).1)
      (Store.answer (.commit id view.history.last.id decision.change) traffic.state).2 := by
  have hbefore := Store.get?_of_view hview
  obtain ⟨hattempt, hofSteps⟩ := Store.view_eq_ok hview
  obtain ⟨hsteps, hid, hmarked⟩ := Store.view_steps hview
  obtain ⟨after, hafter, -⟩ := hgrows.steps id _ hbefore
  have hlast := Store.lastId_steps view.history
  by_cases heq : Store.lastId after = view.history.last.id
  · obtain rfl := hgrows.eq_of_lastId hsane h hbefore hafter (hlast.trans heq.symm)
    have hnow : traffic.state.view id = .ok view := by
      rw [Store.view_of_get? (hgrows.attempts id _ hattempt), Store.stepsOf_of_get? hafter, hsteps, hofSteps]
      rfl
    have hanswer := answer_commit h hnow hdecide
    have hperform : ticket.perform traffic.state =
        (submission.accepted decision, traffic.state.keep id decision.history) := by
      simp [Ticket.perform, hcall, Store.decide, hnow, hdecide]
    have hanswered : Answered traffic ticket (.commit id view.history.last.id decision.change)
        (.done (ticket.perform traffic.state).1) (ticket.perform traffic.state).2 :=
      .performs fun _ => ⟨.receipt decision.receipt, by rw [hperform]; rfl⟩
    rw [hanswer]
    rwa [hperform] at hanswered
  · have hanswer : Store.answer (.commit id view.history.last.id decision.change) traffic.state =
        (.error (.conflict view.history.last.id (Store.lastId after)), traffic.state) := by
      simp only [Store.answer, Store.commit, hafter, ne_eq, heq, not_false_iff, ite_true]
      rfl
    rw [hanswer]
    exact .refused rfl hafter heq

/-! ## Every question -/

theorem start_answered (traffic : Traffic) {ticket : Ticket} {questionId userId : String}
    (hcall : ticket.call = .start questionId userId) (view : View)
    (hview : view = ticket.issue.newView questionId userId) :
    Answered traffic ticket (.create view.attempt view.history.current)
      (afterCreate view (Store.answer (.create view.attempt view.history.current) traffic.state).1)
      (Store.answer (.create view.attempt view.history.current) traffic.state).2 := by
  subst hview
  have hanswered : Answered traffic ticket
      (.create (ticket.issue.newView questionId userId).attempt
        (ticket.issue.newView questionId userId).history.current)
      (.done (ticket.perform traffic.state).1) (ticket.perform traffic.state).2 := .performs nofun
  cases hcontains : traffic.state.attempts.contains ticket.issue.attemptId with
  | true =>
    simp only [Ticket.perform, hcall, hcontains, ite_true] at hanswered
    simp only [Store.answer, Store.create, Issue.newView, hcontains, ite_true]
    exact hanswered
  | false =>
    simp only [Ticket.perform, hcall, hcontains, Bool.false_eq_true, ite_false] at hanswered
    simp only [Store.answer, Store.create, Issue.newView, hcontains, Bool.false_eq_true, ite_false]
    exact hanswered

/-- **What becomes of a question**, in every phase of a call. -/
theorem answered {traffic : Traffic} (h : Sane traffic) {ticket : Ticket} {request : Query}
    {next : Except Failure request.Answer → Program storeInterface (Report Answer)}
    (hphase : Phase traffic ticket (.ask request next)) :
    Answered traffic ticket request (next (Store.answer request traffic.state).1)
      (Store.answer request traffic.state).2 := by
  generalize hrest : Program.ask (I := storeInterface) request next = rest at hphase
  cases hphase with
  | done report => cases hrest
  | entered =>
    rcases ticket.program_cases with ⟨questionId, userId, hcall, hprogram⟩ | ⟨id, htarget, hprogram⟩
    · rw [hprogram] at hrest
      cases hrest
      exact start_answered traffic hcall _ rfl
    · rw [hprogram] at hrest
      cases hrest
      cases hattempt : traffic.state.attempts.get? id with
      | none =>
        have hview : traffic.state.view id = .error (.notFound id) := by simp [Store.view, hattempt]
        have hanswered := conclude_answered h htarget (Eq.refl (Query.find id).isCommit)
        rw [hview] at hanswered
        simp only [Store.answer, hattempt, afterFind]
        exact hanswered
      | some attempt =>
        simp only [Store.answer, hattempt, afterFind]
        exact .goesOn (.found htarget hattempt)
  | @found id attempt htarget hattempt =>
    cases hrest
    have hanswered := conclude_answered h htarget (Eq.refl (Query.load id).isCommit)
    rw [Store.view_of_get? hattempt] at hanswered
    exact hanswered
  | decided hcall hsane hgrows hview hdecide hchange =>
    cases hrest
    exact commit_answered h hcall hsane hgrows hview hdecide

/-! ## Every schedule -/

/-- what holds of the traffic after every schedule -/
structure Inv (traffic : Traffic) : Prop extends Sane traffic where
  phase : ∀ (place : Nat) ticket rest, traffic.jobs[place]? = some ⟨ticket, rest⟩ → Phase traffic ticket rest

theorem answered_step {traffic : Traffic} (h : Inv traffic) {place : Nat} {ticket : Ticket} {request : Query}
    {next : Except Failure request.Answer → Program storeInterface (Report Answer)}
    (hjob : traffic.jobs[place]? = some ⟨ticket, .ask request next⟩) :
    ∃ rest state, Answered traffic ticket request rest state ∧
      traffic.step (.advance place) = ⟨state, traffic.jobs.set place ⟨ticket, rest⟩,
        traffic.endings ++ endingOf place ticket (some request) rest⟩ :=
  ⟨_, _, answered h.toSane (h.phase place ticket _ hjob), World.step_ask hjob⟩

theorem spent_append {traffic next : Traffic} {endings : List (Ending storeInterface Ticket (Report Answer))}
    (h : next.endings = traffic.endings ++ endings) (id : String) (hid : Spent traffic id) : Spent next id := by
  obtain ⟨ending, hmem, hending⟩ := hid
  exact ⟨ending, by rw [h]; exact List.mem_append_left _ hmem, hending⟩

theorem enter_inv {traffic : Traffic} (h : Inv traffic) (ticket : Ticket)
    (hfresh : ((traffic.step (.enter ticket)).tickets.flatMap Ticket.ids).Nodup) :
    Inv (traffic.step (.enter ticket)) ∧ Grows traffic (traffic.step (.enter ticket)) := by
  obtain ⟨request, next, hprogram⟩ := ticket.program_asks
  have hendings : (traffic.step (.enter ticket)).endings = traffic.endings ++ [] := by
    simp only [step, World.step, hprogram, endingOf]
  have hspent := spent_append hendings
  have hsettled : (traffic.step (.enter ticket)).Settled := World.step_settled h.settled _
  have hgrows : Grows traffic (traffic.step (.enter ticket)) := .of_state_eq rfl hspent
  refine ⟨⟨h.toSane.of_state_eq rfl hsettled hfresh hspent, fun place ticket' rest hjob => ?_⟩, hgrows⟩
  rcases World.jobs_enter_cases hjob with hold | ⟨-, rfl, rfl⟩
  · exact (h.phase place ticket' rest hold).of_grows hgrows
  · exact .entered

/-- whatever becomes of a question, the store stays as it should be, and the call is where it says -/
theorem sane_of_answered {traffic next : Traffic} (h : Sane traffic) {place : Nat} {ticket : Ticket} {request : Query}
    {go : Except Failure request.Answer → Program storeInterface (Report Answer)}
    (hjob : traffic.jobs[place]? = some ⟨ticket, .ask request go⟩) {rest : Program storeInterface (Report Answer)}
    (hanswered : Answered traffic ticket request rest next.state)
    (hendings : next.endings = traffic.endings ++ endingOf place ticket (some request) rest) (hsettled : next.Settled)
    (hfresh : (next.tickets.flatMap Ticket.ids).Nodup) :
    Sane next ∧ Grows traffic next ∧ Phase traffic ticket rest := by
  have hspent := spent_append hendings
  have hquiet : next.state = traffic.state → Sane next ∧ Grows traffic next := fun hstate =>
    ⟨h.of_state_eq hstate hsettled hfresh hspent, .of_state_eq hstate hspent⟩
  generalize hstate : next.state = state at hanswered
  cases hanswered with
  | goesOn hphase => exact ⟨(hquiet hstate).1, (hquiet hstate).2, hphase⟩
  | refused => exact ⟨(hquiet hstate).1, (hquiet hstate).2, .done _⟩
  | performs hcommit =>
    rcases ticket.perform_writes traffic.state with hsame | ⟨id, attempt, steps, hwrites, hwritten⟩
    · have hunchanged := hquiet (hstate.trans hsame)
      exact ⟨hunchanged.1, hunchanged.2, .done _⟩
    · have hfits := fits_of_writes h hjob hwrites
      have hnext := hstate.trans hwritten
      have hnew : ∀ other ∈ ticket.ids, ¬ Spent traffic other := fun other hid => h.not_spent hjob hid
      have hids : ∀ other ∈ ticket.ids, Spent next other := fun other hid =>
        ⟨⟨place, ticket, some request, _⟩, by rw [hendings]; exact List.mem_append_right _ List.mem_cons_self, hid⟩
      exact ⟨h.of_fits hfits hnext hsettled hfresh hspent hids hnew, .of_fits hfits hnext hspent, .done _⟩

theorem advance_inv {traffic : Traffic} (h : Inv traffic) (place : Nat)
    (hfresh : ((traffic.step (.advance place)).tickets.flatMap Ticket.ids).Nodup) :
    Inv (traffic.step (.advance place)) ∧ Grows traffic (traffic.step (.advance place)) := by
  rcases World.step_advance_cases Store.answer Ticket.program traffic place with hsame | ⟨ticket, request, next, hjob⟩
  · have hstep : traffic.step (.advance place) = traffic := hsame
    rw [hstep]
    exact ⟨h, .refl traffic⟩
  · obtain ⟨rest, state, hanswered, hstep⟩ := answered_step h hjob
    have hsettled : (traffic.step (.advance place)).Settled := World.step_settled h.settled _
    have hendings : (traffic.step (.advance place)).endings =
        traffic.endings ++ endingOf place ticket (some request) rest := by rw [hstep]
    obtain rfl : (traffic.step (.advance place)).state = state := by rw [hstep]
    obtain ⟨hsane, hgrows, hphase⟩ := sane_of_answered h.toSane hjob hanswered hendings hsettled hfresh
    refine ⟨⟨hsane, fun other ticket' rest' hother => ?_⟩, hgrows⟩
    by_cases heq : other = place
    · subst heq
      obtain ⟨hplace, -⟩ := List.getElem?_eq_some_iff.1 hjob
      rw [hstep, List.getElem?_set_self hplace] at hother
      cases hother
      exact hphase.of_grows hgrows
    · rw [Traffic.step, World.jobs_advance_other traffic heq] at hother
      exact (h.phase other ticket' rest' hother).of_grows hgrows

/-- **One move keeps the invariant**, and the traffic after it comes from the traffic before it. -/
theorem step_inv {traffic : Traffic} (h : Inv traffic) (move : Move Ticket)
    (hfresh : ((traffic.step move).tickets.flatMap Ticket.ids).Nodup) :
    Inv (traffic.step move) ∧ Grows traffic (traffic.step move) := by
  cases move with
  | enter ticket => exact enter_inv h ticket hfresh
  | advance place => exact advance_inv h place hfresh

theorem IsFresh.of_append {moves more : List (Move Ticket)} (h : IsFresh (moves ++ more)) : IsFresh moves := by
  unfold IsFresh at h
  rw [Move.tickets_append, List.flatMap_append] at h
  exact h.of_append_left

theorem IsFresh.of_front {front moves : List (Move Ticket)} (h : IsFresh moves) (hfront : front <+: moves) :
    IsFresh front := by
  obtain ⟨rest, rfl⟩ := hfront
  exact h.of_append

theorem tickets_after (moves : List (Move Ticket)) : (after moves).tickets = Move.tickets moves := by
  rw [after, World.tickets_run]
  rfl

theorem after_concat (moves : List (Move Ticket)) (move : Move Ticket) :
    after (moves ++ [move]) = (after moves).step move := World.run_concat _ _ _

theorem length_jobs (moves : List (Move Ticket)) : (after moves).jobs.length = (Move.tickets moves).length := by
  rw [← tickets_after, World.tickets, List.length_map]

theorem jobs_entered (before : List (Move Ticket)) (ticket : Ticket) :
    (after (before ++ [.enter ticket])).jobs[(Move.tickets before).length]? = some ⟨ticket, ticket.program⟩ := by
  rw [after_concat, ← length_jobs]
  exact World.jobs_enter_new _ _

/-- **The invariant holds after every schedule.** -/
theorem after_inv {moves : List (Move Ticket)} (hfresh : IsFresh moves) : Inv (after moves) := by
  induction moves using List.reverseRecOn with
  | nil =>
    refine ⟨⟨World.start_settled _, ?_, ?_, ?_, ?_, ?_, ?_⟩, ?_⟩ <;>
      simp [after, World.start, World.tickets, Store.empty]
  | append_singleton moves move ih =>
    have hfresh' : (((after moves).step move).tickets.flatMap Ticket.ids).Nodup := by
      rw [← after_concat, tickets_after]
      exact hfresh
    rw [after_concat]
    exact (step_inv (ih hfresh.of_append) move hfresh').1

/-- **Later moments come from earlier ones.** -/
theorem after_grows (moves : List (Move Ticket)) {more : List (Move Ticket)} (hfresh : IsFresh (moves ++ more)) :
    Grows (after moves) (after (moves ++ more)) := by
  induction more using List.reverseRecOn with
  | nil =>
    rw [List.append_nil]
    exact .refl _
  | append_singleton more move ih =>
    rw [← List.append_assoc] at hfresh ⊢
    have hfresh' : (((after (moves ++ more)).step move).tickets.flatMap Ticket.ids).Nodup := by
      rw [← after_concat, tickets_after]
      exact hfresh
    rw [after_concat]
    exact (ih hfresh.of_append).trans (after_inv hfresh.of_append.of_append).toSane
      (step_inv (after_inv hfresh.of_append) move hfresh').2

end Traffic

end AttemptLog
