import AttemptLog.Proofs.Service.Phase
/-!
The moments of a call.

A call that hands a change in has read the steps at an earlier moment, and waits since then (`loaded_before`). Between
two moments the steps of an attempt stay the same unless somebody's change of it goes through (`steps_or_commit`).
Together they say why a change is refused: somebody else's change of the same attempt went through after the steps
were read (`commit_between`).
-/
namespace AttemptLog

theorem Call.conclude_eq_ask {call : Call} {issue : Issue} {viewed : Except Failure View} {request : Query}
    {next : Except Failure request.Answer → Program storeInterface (Report Answer)}
    (h : call.conclude issue viewed = .ask request next) :
    ∃ id submission expected view, ∃ decision : Decision, call = .submit id submission expected ∧ viewed = .ok view ∧
      view.decide submission expected issue.stamp = .ok decision ∧
      request = .commit id view.history.last.id decision.change ∧ decision.change.isEmpty = false := by
  cases call with
  | submit id submission expected =>
    cases viewed with
    | error failure => cases h
    | ok view =>
      simp only [conclude] at h
      split at h
      · cases h
      · next decision hdecide =>
        split at h
        · cases h
        · next hchange =>
          cases h
          exact ⟨id, submission, expected, view, decision, rfl, rfl, hdecide, rfl, by simpa using hchange⟩
  | _ => cases h

/-- an answer changes the steps of an attempt only if it begins the attempt or carries out a change of it -/
theorem Store.answer_steps (request : Query) (store : Store) (id : String) :
    (answer request store).2.steps.get? id = store.steps.get? id ∨ store.attempts.get? id = none ∨
      ∃ expected change next, request = .commit id expected change ∧ store.commit id expected change = .ok next := by
  cases request with
  | find other => exact .inl rfl
  | load other => exact .inl rfl
  | ping => exact .inl rfl
  | create attempt first =>
    cases hcontains : store.attempts.contains attempt.id with
    | true => exact .inl (by simp [answer, create, hcontains, settle])
    | false =>
      by_cases heq : id = attempt.id
      · subst heq
        exact .inr (.inl (Keyed.contains_eq_false_iff.1 hcontains))
      · exact .inl (by simp [answer, create, hcontains, settle, heq])
  | commit other expected change =>
    cases hcommit : store.commit other expected change with
    | error failure => exact .inl (by simp [answer, hcommit, settle])
    | ok next =>
      by_cases heq : id = other
      · subst heq
        exact .inr (.inr ⟨expected, change, next, rfl, hcommit⟩)
      · obtain ⟨before, after, -, -, -, hnext⟩ := commit_eq_ok hcommit
        exact .inl (by simp [answer, hcommit, settle, hnext, heq])

namespace Traffic

/-- will the change of an attempt go through that the call at a place hands in now -/
def Commits (traffic : Traffic) (id : String) (place : Nat) : Prop :=
  ∃ expected change next, traffic.asks? place = some (.commit id expected change) ∧
    traffic.state.commit id expected change = .ok next

theorem asks?_of_job {traffic : Traffic} {place : Nat} {ticket : Ticket} {request : Query}
    {next : Except Failure request.Answer → Program storeInterface (Report Answer)}
    (h : traffic.jobs[place]? = some ⟨ticket, .ask request next⟩) : traffic.asks? place = some request := by
  simp only [World.asks?, h]

theorem answered_of_endsNext {before : List (Move Ticket)} (hfresh : IsFresh before)
    {ending : Ending storeInterface Ticket (Report Answer)} (h : (after before).EndsNext Store.answer ending) :
    ∃ request, ending.last = some request ∧
      Answered (after before) ending.ticket request (.done ending.result)
        (after (before ++ [.advance ending.place])).state := by
  obtain ⟨request, next, hjob, hlast, hresult⟩ := h
  have hinv := after_inv hfresh
  have hanswered := answered hinv.toSane (hinv.phase ending.place ending.ticket _ hjob)
  refine ⟨request, hlast, ?_⟩
  rw [after_concat, Traffic.step, World.step_ask hjob]
  rwa [hresult] at hanswered

/-- **Each ending is the answer to a last question**, which was asked at some moment. -/
theorem ending_answered {moves : List (Move Ticket)} (hfresh : IsFresh moves)
    {ending : Ending storeInterface Ticket (Report Answer)} (hmem : ending ∈ (after moves).endings) :
    ∃ before rest request, ∃ next : Except Failure (Query.Answer request) → Program storeInterface (Report Answer),
      moves = before ++ .advance ending.place :: rest ∧ ending.last = some request ∧
      (after before).jobs[ending.place]? = some ⟨ending.ticket, .ask request next⟩ ∧
      next (Store.answer request (after before).state).1 = .done ending.result ∧
      Answered (after before) ending.ticket request (.done ending.result)
        (after (before ++ [.advance ending.place])).state := by
  obtain ⟨front, back, hsplit⟩ := List.append_of_mem hmem
  obtain ⟨before, rest, rfl, -, hends⟩ := World.run_endings Ticket.program_asks hsplit
  obtain ⟨request, hlast, hanswered⟩ := answered_of_endsNext hfresh.of_append hends
  obtain ⟨request', next, hjob, hlast', hresult⟩ := hends
  rw [hlast] at hlast'
  cases hlast'
  exact ⟨before, rest, request, next, rfl, hlast, hjob, hresult, hanswered⟩

/-! ## From moment to moment -/

theorem step_steps {traffic : Traffic} (h : Sane traffic) {id : String} {steps : List Step}
    (hsteps : traffic.state.steps.get? id = some steps) (move : Move Ticket) :
    (traffic.step move).state.steps.get? id = some steps ∨
      ∃ place, move = .advance place ∧ Commits traffic id place := by
  cases move with
  | enter ticket => exact .inl hsteps
  | advance place =>
    rcases World.step_advance_cases Store.answer Ticket.program traffic place with hsame | ⟨ticket, request, next, hjob⟩
    · refine .inl ?_
      rw [Traffic.step, hsame]
      exact hsteps
    · rw [Traffic.step, World.step_ask hjob]
      rcases Store.answer_steps request traffic.state id with hsame | hnone | ⟨expected, change, after, rfl, hcommit⟩
      · exact .inl (hsame.trans hsteps)
      · have hpaired := h.paired id
        rw [hnone, hsteps] at hpaired
        cases hpaired
      · exact .inr ⟨place, rfl, expected, change, after, asks?_of_job hjob, hcommit⟩

/-- **The steps of an attempt stay the same unless a change of it goes through.** -/
theorem steps_or_commit {moves more : List (Move Ticket)} (hfresh : IsFresh (moves ++ more)) {id : String}
    {steps : List Step} (hsteps : (after moves).state.steps.get? id = some steps) :
    (after (moves ++ more)).state.steps.get? id = some steps ∨
      ∃ early place late, more = early ++ .advance place :: late ∧ Commits (after (moves ++ early)) id place := by
  induction more using List.reverseRecOn with
  | nil =>
    rw [List.append_nil]
    exact .inl hsteps
  | append_singleton more move ih =>
    rw [← List.append_assoc] at hfresh ⊢
    rcases ih hfresh.of_append with hsame | ⟨early, place, late, rfl, hcommits⟩
    · rw [after_concat]
      rcases step_steps (after_inv hfresh.of_append).toSane hsame move with hstep | ⟨place, rfl, hcommits⟩
      · exact .inl hstep
      · exact .inr ⟨more, place, [], rfl, hcommits⟩
    · exact .inr ⟨early, place, late ++ [move], by simp, hcommits⟩

/-! ## Waiting with a change -/

/-- a change is decided on as soon as the steps were read -/
theorem loads_before_commit {traffic : Traffic} {ticket : Ticket} {request : Query}
    {next : Except Failure request.Answer → Program storeInterface (Report Answer)}
    (hphase : Phase traffic ticket (.ask request next)) {id expected : String} {change : Change}
    {go : Except Failure Unit → Program storeInterface (Report Answer)}
    (hnext : next (Store.answer request traffic.state).1 = .ask (.commit id expected change) go) :
    request = .load id ∧ ∃ submission seen view, ∃ decision : Decision, ticket.call = .submit id submission seen ∧
      traffic.state.view id = .ok view ∧ view.decide submission seen ticket.issue.stamp = .ok decision ∧
      view.history.last.id = expected ∧ decision.change.isEmpty = false := by
  generalize hrest : Program.ask (I := storeInterface) request next = rest at hphase
  cases hphase with
  | done report => cases hrest
  | entered =>
    rcases ticket.program_cases with ⟨questionId, userId, -, hprogram⟩ | ⟨other, -, hprogram⟩
    · rw [hprogram] at hrest
      cases hrest
      exact absurd hnext afterCreate_ne_ask
    · rw [hprogram] at hrest
      cases hrest
      cases hattempt : traffic.state.attempts.get? other with
      | none =>
        simp only [Store.answer, hattempt, afterFind] at hnext
        obtain ⟨-, -, -, view, -, -, hviewed, -⟩ := Call.conclude_eq_ask hnext
        cases hviewed
      | some attempt =>
        simp only [Store.answer, hattempt, afterFind] at hnext
        cases hnext
  | @found other attempt htarget hattempt =>
    cases hrest
    simp only [Store.answer, afterLoad, ← Store.view_of_get? hattempt] at hnext
    obtain ⟨id', submission, seen, view, decision, hcall, hviewed, hdecide, hrequest, hchange⟩ :=
      Call.conclude_eq_ask hnext
    rw [hcall] at htarget
    cases htarget
    cases hrequest
    exact ⟨rfl, submission, seen, view, decision, hcall, hviewed, hdecide, rfl, hchange⟩
  | decided hcall hsane hgrows hview hdecide hchange =>
    cases hrest
    exact absurd hnext afterCommit_ne_ask

theorem Phase.commit_last {traffic : Traffic} {ticket : Ticket} {id expected : String} {change : Change}
    {go : Except Failure Unit → Program storeInterface (Report Answer)}
    (h : Phase traffic ticket (.ask (.commit id expected change) go)) (reply : Except Failure Unit) {request : Query}
    {next : Except Failure request.Answer → Program storeInterface (Report Answer)} : go reply ≠ .ask request next := by
  generalize hrest : Program.ask (I := storeInterface) (.commit id expected change) go = rest at h
  cases h with
  | done report => cases hrest
  | found htarget hattempt => cases hrest
  | entered =>
    rcases ticket.program_cases with ⟨questionId, userId, -, hprogram⟩ | ⟨other, -, hprogram⟩ <;>
    · rw [hprogram] at hrest
      cases hrest
  | decided hcall hsane hgrows hview hdecide hchange =>
    cases hrest
    exact afterCommit_ne_ask

/-- has the call at a place read the steps of an attempt, with this last one, and waited since then -/
def HasLoaded (moves : List (Move Ticket)) (place : Nat) (id expected : String)
    (job : Job storeInterface Ticket (Report Answer)) : Prop :=
  ∃ loading between, moves = loading ++ .advance place :: between ∧ (after loading).asks? place = some (.load id) ∧
    (∃ steps, (after loading).state.steps.get? id = some steps ∧ Store.lastId steps = expected) ∧
    ∀ early late, between = early ++ late → (after (loading ++ .advance place :: early)).jobs[place]? = some job

theorem HasLoaded.concat {moves : List (Move Ticket)} {place : Nat} {id expected : String}
    {job : Job storeInterface Ticket (Report Answer)} (h : HasLoaded moves place id expected job) {move : Move Ticket}
    (hjob : (after (moves ++ [move])).jobs[place]? = some job) : HasLoaded (moves ++ [move]) place id expected job := by
  obtain ⟨loading, between, rfl, hasks, hsteps, hwaits⟩ := h
  refine ⟨loading, between ++ [move], by simp, hasks, hsteps, fun early late hsplit => ?_⟩
  rcases List.eq_nil_or_concat late with rfl | ⟨late', final, rfl⟩
  · rw [List.append_nil] at hsplit
    subst hsplit
    simpa using hjob
  · rw [List.concat_eq_append, ← List.append_assoc] at hsplit
    exact hwaits early late' (List.append_inj' hsplit rfl).1

/-- **A call with a change to hand in has read the steps before**, and waits since then. -/
theorem loaded_before {moves : List (Move Ticket)} (hfresh : IsFresh moves) {place : Nat} {ticket : Ticket}
    {id expected : String} {change : Change} {go : Except Failure Unit → Program storeInterface (Report Answer)}
    (hjob : (after moves).jobs[place]? = some ⟨ticket, .ask (.commit id expected change) go⟩) :
    HasLoaded moves place id expected ⟨ticket, .ask (.commit id expected change) go⟩ := by
  induction moves using List.reverseRecOn with
  | nil => cases hjob
  | append_singleton moves move ih =>
    have hwaited := fun hbefore => (ih hfresh.of_append hbefore).concat hjob
    have hinv := after_inv hfresh.of_append
    rw [after_concat] at hjob
    cases move with
    | enter entering =>
      rcases World.jobs_enter_cases hjob with hold | ⟨-, -, hprogram⟩
      · exact hwaited hold
      · -- nobody hands in a change at first
        rcases entering.program_cases with ⟨questionId, userId, -, hfirst⟩ | ⟨other, -, hfirst⟩ <;>
        · rw [hfirst] at hprogram
          cases hprogram
    | advance other =>
      by_cases hother : place = other
      · subst hother
        rcases World.step_advance_cases Store.answer Ticket.program (after moves) place with
          hsame | ⟨ticket', request, next, hbefore⟩
        · rw [Traffic.step, hsame] at hjob
          exact hwaited hjob
        · have hafter := hjob
          rw [Traffic.step, World.jobs_advance_self hbefore, Option.some.injEq, Job.mk.injEq] at hafter
          obtain ⟨rfl, hnext⟩ := hafter
          obtain ⟨rfl, -, -, view, -, -, hview, -, rfl, -⟩ :=
            loads_before_commit (hinv.phase place ticket' _ hbefore) hnext
          refine ⟨moves, [], rfl, asks?_of_job hbefore, ?_, fun early late hsplit => ?_⟩
          · exact ⟨_, Store.get?_of_view hview, Store.lastId_steps view.history⟩
          obtain ⟨rfl, -⟩ := List.append_eq_nil_iff.1 hsplit.symm
          rwa [after_concat]
      · rw [Traffic.step, World.jobs_advance_other _ hother] at hjob
        exact hwaited hjob

/-- **Why a change does not go through**: since the steps were read, another call's change of the same attempt went
through. -/
theorem commit_between {moves : List (Move Ticket)} (hfresh : IsFresh moves) {place : Nat} {ticket : Ticket}
    {id expected : String} {change : Change} {go : Except Failure Unit → Program storeInterface (Report Answer)}
    (hjob : (after moves).jobs[place]? = some ⟨ticket, .ask (.commit id expected change) go⟩) {steps : List Step}
    (hsteps : (after moves).state.steps.get? id = some steps) (hlast : Store.lastId steps ≠ expected) :
    ∃ loading early other late, moves = loading ++ .advance place :: (early ++ .advance other :: late) ∧
      (after loading).asks? place = some (.load id) ∧ other ≠ place ∧
      Commits (after (loading ++ .advance place :: early)) id other := by
  obtain ⟨loading, between, rfl, hasks, ⟨read, hread, hexpected⟩, hwaits⟩ := loaded_before hfresh hjob
  have hsplit : loading ++ .advance place :: between = (loading ++ [.advance place]) ++ between := by simp
  -- reading does not change what is read
  have hread' : (after (loading ++ [.advance place])).state.steps.get? id = some read := by
    rw [hsplit] at hfresh
    rw [after_concat]
    refine (step_steps (after_inv hfresh.of_append.of_append).toSane hread (.advance place)).resolve_right ?_
    rintro ⟨place', heq, expected', change', next, hcommit, -⟩
    cases heq
    rw [hasks] at hcommit
    cases hcommit
  rw [hsplit] at hfresh hsteps
  rcases steps_or_commit hfresh hread' with hsame | ⟨early, other, late, rfl, hcommits⟩
  · rw [hsame] at hsteps
    cases hsteps
    exact absurd hexpected hlast
  · rw [List.append_assoc, List.singleton_append] at hcommits
    refine ⟨loading, early, other, late, rfl, hasks, ?_, hcommits⟩
    -- the call itself waits all the time: it would be done if it had been answered
    rintro rfl
    have hbefore := hwaits early (.advance other :: late) rfl
    have hafter := hwaits (early ++ [.advance other]) late (by simp)
    rw [← List.cons_append, ← List.append_assoc, after_concat, Traffic.step, World.jobs_advance_self hbefore,
      Option.some.injEq, Job.mk.injEq] at hafter
    have hearly : IsFresh ((loading ++ .advance other :: early) ++ .advance other :: late) := by simpa using hfresh
    have hinv := after_inv hearly.of_append
    exact (hinv.phase other ticket _ hbefore).commit_last _ hafter.2

/-! ## Nothing to hand in -/

/-- **A call that has nothing to change whenever it reads hands nothing in.** -/
theorem has_no_change {before early : List (Move Ticket)} {ticket : Ticket} {id : String} {submission : Submission}
    {expected : Option String} (hfresh : IsFresh (before ++ .enter ticket :: early))
    (hcall : ticket.call = .submit id submission expected)
    (hnothing : ∀ front, front <+: early → ∀ decision,
      (after (before ++ .enter ticket :: front)).state.decide id submission expected ticket.issue.stamp = .ok decision →
      decision.change.isEmpty = true) :
    ∃ rest, (after (before ++ .enter ticket :: early)).jobs[(Move.tickets before).length]? = some ⟨ticket, rest⟩ ∧
      ∀ other last change go, rest ≠ .ask (.commit other last change) go := by
  induction early using List.reverseRecOn with
  | nil =>
    refine ⟨ticket.program, jobs_entered before ticket, fun other last change go heq => ?_⟩
    rcases ticket.program_cases with ⟨questionId, userId, -, hprogram⟩ | ⟨target, -, hprogram⟩ <;>
    · rw [hprogram] at heq
      cases heq
  | append_singleton early move ih =>
    have hbefore := hnothing early (List.prefix_append _ _)
    rw [← List.cons_append, ← List.append_assoc] at hfresh ⊢
    obtain ⟨rest, hjob, hrest⟩ :=
      ih hfresh.of_append fun front hfront => hnothing front (hfront.trans (List.prefix_append _ _))
    rw [after_concat]
    cases move with
    | enter entering => exact ⟨rest, World.jobs_enter_old entering hjob, hrest⟩
    | advance other =>
      by_cases hother : (Move.tickets before).length = other
      · subst hother
        rcases World.step_advance_cases Store.answer Ticket.program (after (before ++ .enter ticket :: early))
          (Move.tickets before).length with hsame | ⟨ticket', request, next, hasks⟩
        · rw [Traffic.step, hsame]
          exact ⟨rest, hjob, hrest⟩
        · rw [hjob] at hasks
          cases hasks
          refine ⟨_, World.jobs_advance_self hjob, fun other last change go hnext => ?_⟩
          have hphase := (after_inv hfresh.of_append).phase _ ticket _ hjob
          obtain ⟨-, submission', expected', view, decision, hcall', hview, hdecide, -, hchange⟩ :=
            loads_before_commit hphase hnext
          rw [hcall] at hcall'
          cases hcall'
          have hempty := hbefore decision (by rw [Store.decide, hview]; exact hdecide)
          rw [hchange] at hempty
          cases hempty
      · exact ⟨rest, (World.jobs_advance_other _ hother).trans hjob, hrest⟩

end Traffic

end AttemptLog
