import AttemptLog.Proofs.Service.Moments
/-!
The last step of an attempt tells its steps.

A last step can come back: a draft takes its place, and goes again. `steps_eq_of_lastId` says that nothing else has
changed by then: at any two moments at which an attempt has the same last step, it has the same steps. A client that
hands in a response together with the last step that it saw can therefore be sure that, if this goes through, it was
decided on what the client saw, and that no other step was there when it was stored (`last_step_tells`).
-/
namespace AttemptLog

theorem Call.conclude_error_ok {call : Call} {issue : Issue} {failure : Failure} {report : Report Answer}
    {answer : Answer} (h : call.conclude issue (.error failure) = .done report) : report.result ≠ .ok answer := by
  cases call <;> cases h <;> exact nofun

theorem Ticket.perform_render {ticket : Ticket} {id : String} {store : Store} {view : View}
    (hcall : ticket.call = .render id) (h : (ticket.perform store).1.result = .ok (.view view)) :
    store.view id = .ok view := by
  simp only [perform, hcall] at h
  cases hview : store.view id with
  | error failure =>
    rw [hview] at h
    cases h
  | ok other =>
    rw [hview] at h
    cases h
    rfl

theorem Ticket.perform_submit {ticket : Ticket} {id : String} {submission : Submission} {expected : Option String}
    {store : Store} {receipt : Receipt} (hcall : ticket.call = .submit id submission expected)
    (h : (ticket.perform store).1.result = .ok (.receipt receipt)) :
    ∃ view decision, store.view id = .ok view ∧
      view.decide submission expected ticket.issue.stamp = .ok decision ∧ receipt = decision.receipt ∧
      (ticket.perform store).2 = store.keep id decision.history := by
  simp only [perform, hcall] at h ⊢
  cases hdecide : store.decide id submission expected ticket.issue.stamp with
  | error failure =>
    rw [hdecide] at h
    cases h
  | ok decision =>
    rw [hdecide] at h
    cases h
    obtain ⟨view, hview, hmade⟩ := Store.decide_eq_ok hdecide
    exact ⟨view, decision, hview, hmade, rfl, rfl⟩

namespace Traffic

/-- **The last step tells the steps**, whatever happened between two moments of a schedule. -/
theorem steps_eq_of_lastId {moves : List (Move Ticket)} (hfresh : IsFresh moves) {a b : List (Move Ticket)}
    (ha : a <+: moves) (hb : b <+: moves) {id : String} {as bs : List Step}
    (has : (after a).state.steps.get? id = some as) (hbs : (after b).state.steps.get? id = some bs)
    (hlast : Store.lastId as = Store.lastId bs) : as = bs := by
  have hforward : ∀ early later : List (Move Ticket), early <+: later → later <+: moves → ∀ es ls : List Step,
      (after early).state.steps.get? id = some es → (after later).state.steps.get? id = some ls →
      Store.lastId es = Store.lastId ls → es = ls := by
    rintro early - ⟨more, rfl⟩ hfront es ls hes hls hid
    have hlater : IsFresh (early ++ more) := hfresh.of_front hfront
    exact (after_grows early hlater).eq_of_lastId (after_inv hlater.of_append).toSane (after_inv hlater).toSane
      hes hls hid
  rcases List.prefix_or_prefix_of_prefix ha hb with hab | hba
  · exact hforward a b hab hb as bs has hbs hlast
  · exact (hforward b a hba ha bs as hbs has hlast.symm).symm

/-- a call that comes to its end with success does what it would do alone -/
theorem performed_of_endsNext {before : List (Move Ticket)} (hfresh : IsFresh before)
    {ending : Ending storeInterface Ticket (Report Answer)} (h : (after before).EndsNext Store.answer ending)
    {answer : Answer} (hok : ending.result.result = .ok answer) :
    ending.ticket.perform (after before).state =
      (ending.result, (after (before ++ [.advance ending.place])).state) := by
  obtain ⟨request, -, hanswered⟩ := answered_of_endsNext hfresh h
  generalize (after (before ++ [.advance ending.place])).state = state at hanswered ⊢
  generalize ending.result = report at hanswered hok ⊢
  cases hanswered with
  | performs hcommit => rfl
  | refused hrequest hsteps hne => cases hok

/-- a call that succeeded did what it would have done alone when it was answered for the last time -/
theorem performed_of_ok {moves : List (Move Ticket)} (hfresh : IsFresh moves)
    {ending : Ending storeInterface Ticket (Report Answer)} (hmem : ending ∈ (after moves).endings) {answer : Answer}
    (hok : ending.result.result = .ok answer) :
    ∃ before rest, moves = before ++ .advance ending.place :: rest ∧ (after before).EndsNext Store.answer ending ∧
      ending.ticket.perform (after before).state =
        (ending.result, (after (before ++ [.advance ending.place])).state) := by
  obtain ⟨front, back, hsplit⟩ := List.append_of_mem hmem
  obtain ⟨before, rest, rfl, -, hends⟩ := World.run_endings Ticket.program_asks hsplit
  exact ⟨before, rest, rfl, hends, performed_of_endsNext hfresh.of_append hends hok⟩

/-- a call about an attempt that succeeds is answered for the last time when its steps are read, or after that -/
theorem last_question {traffic : Traffic} {ticket : Ticket} {id : String}
    (htarget : ticket.call.target? = some id) {request : Query}
    {next : Except Failure request.Answer → Program storeInterface (Report Answer)}
    (hphase : Phase traffic ticket (.ask request next)) {report : Report Answer} {answer : Answer}
    (hnext : next (Store.answer request traffic.state).1 = .done report) (hok : report.result = .ok answer) :
    request = .load id ∨ ∃ expected change steps, request = .commit id expected change ∧
      traffic.state.steps.get? id = some steps ∧ Store.lastId steps = expected := by
  generalize hrest : Program.ask (I := storeInterface) request next = rest at hphase
  cases hphase with
  | done report => cases hrest
  | entered =>
    rcases ticket.program_cases with ⟨questionId, userId, hcall, -⟩ | ⟨other, -, hprogram⟩
    · rw [hcall] at htarget
      cases htarget
    · rw [hprogram] at hrest
      cases hrest
      cases hattempt : traffic.state.attempts.get? other with
      | none =>
        simp only [Store.answer, hattempt, afterFind] at hnext
        exact absurd hok (Call.conclude_error_ok hnext)
      | some attempt =>
        simp only [Store.answer, hattempt, afterFind] at hnext
        cases hnext
  | found htarget' hattempt =>
    cases hrest
    rw [htarget] at htarget'
    cases htarget'
    exact .inl rfl
  | @decided other submission expected earlier view decision hcall hsane hgrows hview hdecide hchange =>
    cases hrest
    rw [hcall] at htarget
    cases htarget
    cases hcommit : traffic.state.commit id view.history.last.id decision.change with
    | error failure =>
      have hreply : Store.answer (.commit id view.history.last.id decision.change) traffic.state =
          (.error failure, traffic.state) := by
        simp only [Store.answer, hcommit]
        rfl
      rw [hreply] at hnext
      cases hnext
      cases hok
    | ok after =>
      obtain ⟨steps, -, hsteps, hlast, -⟩ := Store.commit_eq_ok hcommit
      exact .inr ⟨_, _, steps, rfl, hsteps, hlast⟩

/-- was a submission decided on these steps of an attempt, and stored when they were still there -/
def DecidedOn (moves : List (Move Ticket)) (ending : Ending storeInterface Ticket (Report Answer)) (id : String)
    (submission : Submission) (receipt : Receipt) (history : History) : Prop :=
  ∃ loading before rest decision, loading <+: before ∧ moves = before ++ .advance ending.place :: rest ∧
    (after loading).asks? ending.place = some (.load id) ∧
    (after loading).state.steps.get? id = some history.steps ∧
    (after before).EndsNext Store.answer ending ∧
    (after before).state.steps.get? id = some history.steps ∧
    history.submit ending.ticket.issue.stamp submission = .ok decision ∧ receipt = decision.receipt ∧
    (after (before ++ [.advance ending.place])).state.steps.get? id = some decision.history.steps

theorem loaded_last {before : List (Move Ticket)} (hfresh : IsFresh before)
    {ending : Ending storeInterface Ticket (Report Answer)} (hends : (after before).EndsNext Store.answer ending)
    {id : String} (htarget : ending.ticket.call.target? = some id) {answer : Answer}
    (hok : ending.result.result = .ok answer) {steps : List Step}
    (hsteps : (after before).state.steps.get? id = some steps) :
    ∃ loading read, loading <+: before ∧ (after loading).asks? ending.place = some (.load id) ∧
      (after loading).state.steps.get? id = some read ∧ Store.lastId read = Store.lastId steps := by
  obtain ⟨request, next, hjob, hlast, hresult⟩ := hends
  have hinv := after_inv hfresh
  have hphase := hinv.phase ending.place ending.ticket _ hjob
  rcases last_question htarget hphase hresult hok with rfl | ⟨expected, change, now, rfl, hnow, hexpected⟩
  · exact ⟨before, steps, List.prefix_refl _, asks?_of_job hjob, hsteps, rfl⟩
  · obtain ⟨loading, between, rfl, hasks, ⟨read, hread, hlastRead⟩, -⟩ := loaded_before hfresh hjob
    rw [hsteps] at hnow
    cases hnow
    exact ⟨loading, read, List.prefix_append _ _, hasks, hread, hlastRead.trans hexpected.symm⟩

/-- what was shown to a client was there at some moment -/
theorem shown_at {moves : List (Move Ticket)} (hfresh : IsFresh moves)
    {seen : Ending storeInterface Ticket (Report Answer)} (hseen : seen ∈ (after moves).endings) {id : String}
    {view : View} (hrender : seen.ticket.call = .render id) (hshown : seen.result.result = .ok (.view view)) :
    ∃ before, before <+: moves ∧ (after before).state.view id = .ok view := by
  obtain ⟨before, rest, hsplit, -, hperform⟩ := performed_of_ok hfresh hseen hshown
  have hreport : (seen.ticket.perform (after before).state).1 = seen.result := by rw [hperform]
  rw [← hreport] at hshown
  exact ⟨before, ⟨_, hsplit.symm⟩, Ticket.perform_render hrender hshown⟩

/-- a submission that succeeds was decided on the steps that were there when it was stored -/
theorem decided_of_ok {moves : List (Move Ticket)} (hfresh : IsFresh moves)
    {written : Ending storeInterface Ticket (Report Answer)} (hwritten : written ∈ (after moves).endings) {id : String}
    {submission : Submission} {expected : Option String} {receipt : Receipt}
    (hsubmit : written.ticket.call = .submit id submission expected)
    (hreceipt : written.result.result = .ok (.receipt receipt)) :
    ∃ before view, before <+: moves ∧ (after before).state.view id = .ok view ∧
      (∀ seen, expected = some seen → seen = view.history.last.id) ∧
      DecidedOn moves written id submission receipt view.history := by
  obtain ⟨before, rest, hsplit, hends, hperform⟩ := performed_of_ok hfresh hwritten hreceipt
  have hprior : before <+: moves := ⟨_, hsplit.symm⟩
  have hearlier := hfresh.of_front hprior
  have hreport : (written.ticket.perform (after before).state).1 = written.result := by rw [hperform]
  have hstate : (written.ticket.perform (after before).state).2 =
      (after (before ++ [.advance written.place])).state := by
    rw [hperform]
  obtain ⟨view, decision, hview, hdecide, hdecision, hkeep⟩ := Ticket.perform_submit hsubmit (hreport ▸ hreceipt)
  obtain ⟨hexpected, hsubmitted⟩ := View.decide_eq_ok hdecide
  have hsteps := Store.get?_of_view hview
  -- what the call had read has the same last step, so it is the same
  obtain ⟨loading, read, hloading, hasks, hread, hlast⟩ :=
    loaded_last hearlier hends (by rw [hsubmit]; rfl) hreceipt hsteps
  obtain rfl := steps_eq_of_lastId hfresh (hloading.trans hprior) hprior hread hsteps hlast
  refine ⟨before, view, hprior, hview, hexpected, loading, before, rest, decision, hloading, hsplit, hasks, hread,
    hends, hsteps, hsubmitted, hdecision, ?_⟩
  rw [← hstate, hkeep, Store.keep, Keyed.get?_insert, if_pos rfl]

theorem history_eq_of_last {moves : List (Move Ticket)} (hfresh : IsFresh moves) {a b : List (Move Ticket)}
    (ha : a <+: moves) (hb : b <+: moves) {id : String} {view other : View} (hview : (after a).state.view id = .ok view)
    (hother : (after b).state.view id = .ok other) (hlast : view.history.last.id = other.history.last.id) :
    view.history = other.history := by
  have hlastId : Store.lastId view.history.steps = Store.lastId other.history.steps := by
    rw [Store.lastId_steps, Store.lastId_steps, hlast]
  have hsame : view.history.steps = other.history.steps :=
    steps_eq_of_lastId hfresh ha hb (Store.get?_of_view hview) (Store.get?_of_view hother) hlastId
  have hofSteps := (Store.view_eq_ok hview).2
  rw [← (Store.view_steps hview).1, hsame, (Store.view_steps hother).1, (Store.view_eq_ok hother).2] at hofSteps
  exact (Except.ok.inj hofSteps).symm

/-- **The last step is a version.** In every schedule that begins with an empty store and whose identities are all
different:

- at any two moments at which an attempt has the same last step, it has the same steps;
- if a client was shown an attempt, and a submission goes through with the last step of what was shown, then the
  submission was decided on the steps that were shown, and these were still there when it was stored. -/
theorem last_step_tells {moves : List (Move Ticket)} (hfresh : IsFresh moves) :
    (∀ a b, a <+: moves → b <+: moves → ∀ id as bs, (after a).state.steps.get? id = some as →
        (after b).state.steps.get? id = some bs → Store.lastId as = Store.lastId bs → as = bs) ∧
      ∀ seen ∈ (after moves).endings, ∀ written ∈ (after moves).endings, ∀ id view submission receipt,
        seen.ticket.call = .render id → seen.result.result = .ok (.view view) →
        written.ticket.call = .submit id submission (some view.history.last.id) →
        written.result.result = .ok (.receipt receipt) →
        DecidedOn moves written id submission receipt view.history := by
  refine ⟨fun a b ha hb id as bs has hbs hlast => steps_eq_of_lastId hfresh ha hb has hbs hlast, ?_⟩
  intro seen hseen written hwritten id view submission receipt hrender hshown hsubmit hreceipt
  obtain ⟨a, ha, hview⟩ := shown_at hfresh hseen hrender hshown
  obtain ⟨b, other, hb, hother, hexpected, hdecided⟩ := decided_of_ok hfresh hwritten hsubmit hreceipt
  rw [history_eq_of_last hfresh ha hb hview hother (hexpected _ rfl)]
  exact hdecided

def filledIn : Response := Keyed.empty.insert "answer" "42"

/-- a client is shown a new attempt; then a draft takes the place of the last step and goes again, before the client
hands in a response -/
def returning : List (Move Ticket) :=
  let enter call stepId : Move Ticket := .enter ⟨call, ⟨"attempt", stepId, .year2024⟩⟩
  [enter (.start "question" "user") "first", .advance 0,
    enter (.render "attempt") "", .advance 1, .advance 1,
    enter (.submit "attempt" (.autosave filledIn) none) "second", .advance 2, .advance 2, .advance 2,
    enter (.submit "attempt" (.autosave Keyed.empty) none) "third", .advance 3, .advance 3, .advance 3,
    enter (.submit "attempt" (.append filledIn) (some "first")) "fourth", .advance 4, .advance 4, .advance 4]

theorem last_step_tells_returning :
    IsFresh returning ∧
      Store.lastId ((after (returning.take 9)).state.stepsOf "attempt") = "second" ∧
      (after (returning.take 2)).state.stepsOf "attempt" = (after (returning.take 13)).state.stepsOf "attempt" ∧
      ∃ written ∈ (after returning).endings, ∃ receipt, DecidedOn returning written "attempt" (.append filledIn) receipt
        (History.start "attempt" ⟨"first", .year2024⟩) := by
  have hfresh : IsFresh returning := by decide
  obtain ⟨hmoments, hwrites⟩ := last_step_tells hfresh
  refine ⟨hfresh, by decide, ?_, ?_⟩
  · exact hmoments (returning.take 2) (returning.take 13) (List.take_prefix _ _) (List.take_prefix _ _) "attempt" _ _
      rfl rfl rfl
  · obtain ⟨seen, hseen⟩ : ∃ seen, (after returning).endings[1]? = some seen := ⟨_, rfl⟩
    obtain ⟨written, hwritten⟩ : ∃ written, (after returning).endings[4]? = some written := ⟨_, rfl⟩
    have hrender : seen.ticket.call = .render "attempt" := by
      cases hseen
      rfl
    have hshown : seen.result.result =
        .ok (.view ⟨⟨"attempt", "question", "user", .year2024⟩, History.start "attempt" ⟨"first", .year2024⟩⟩) := by
      cases hseen
      rfl
    have hsubmit : written.ticket.call = .submit "attempt" (.append filledIn) (some "first") := by
      cases hwritten
      rfl
    obtain ⟨receipt, hreceipt⟩ : ∃ receipt, written.result.result = .ok (.receipt receipt) := by
      cases hwritten
      exact ⟨_, rfl⟩
    have hmem := List.mem_of_getElem? hwritten
    exact ⟨written, hmem, receipt, hwrites seen (List.mem_of_getElem? hseen) written hmem "attempt" _ _ receipt hrender
      hshown hsubmit hreceipt⟩

end Traffic

end AttemptLog
