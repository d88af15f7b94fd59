import AttemptLog.Proofs.Service.Course
import AttemptLog.Proofs.Service.Phase
/-!
What calls count, and what the store holds.

A call counts what it did when it is done. `Tally` says what that is by the way in which the call ended, and what the
counts of drafts and of conflicts come to is read off it, call by call. Counts of attempts and of real steps go with
the store: what one move counts of them is what the store grows by (`step_grownBy`), since only drafts are ever taken
away.
-/
namespace AttemptLog

/-! ## Series and what they count -/

namespace Meter

theorem seriesValue_eq_value {count : Count} {series : Series} (hown : count.series = [series])
    (hother : ∀ other : Count, series ∈ other.series → other = count) (meter : Meter) :
    meter.seriesValue series = meter.value count := by
  induction meter with
  | nil => rfl
  | cons head rest ih =>
    have hhead : head.series.count series = if head = count then 1 else 0 := by
      by_cases heq : head = count
      · simp [heq, hown]
      · rw [if_neg heq]
        exact List.count_eq_zero_of_not_mem fun hmem => heq (hother head hmem)
    simp only [seriesValue, value, List.flatMap_cons, List.count_append, List.count_cons, hhead, beq_iff_eq] at ih ⊢
    omega

theorem seriesValue_started (meter : Meter) : meter.seriesValue (.startedAttempts, []) = meter.value .started := by
  refine seriesValue_eq_value rfl ?_ meter
  intro other hmem
  cases other <;> simp [Count.series] at hmem ⊢

theorem seriesValue_recorded (meter : Meter) (isDraft : Bool) :
    meter.seriesValue (.recordedSteps, [("kind", if isDraft then "autosave" else "real")]) =
      meter.value (.recorded isDraft) := by
  refine seriesValue_eq_value rfl ?_ meter
  intro other hmem
  cases other with
  | recorded kind => cases kind <;> cases isDraft <;> simp [Count.series] at hmem ⊢
  | _ => simp [Count.series] at hmem

theorem seriesValue_autosaved (meter : Meter) (outcome : Outcome) :
    meter.seriesValue (.autosaves, [("outcome", spelling outcome)]) = meter.value (.autosaved outcome) := by
  refine seriesValue_eq_value rfl ?_ meter
  intro other hmem
  cases other with
  | autosaved found => cases found <;> cases outcome <;> simp [Count.series, spelling] at hmem ⊢
  | _ => simp [Count.series] at hmem

theorem seriesValue_conflict (meter : Meter) (operation : String) :
    meter.seriesValue (.conflicts, [("operation", operation)]) = meter.value (.conflict operation) := by
  refine seriesValue_eq_value rfl ?_ meter
  intro other hmem
  cases other <;> simp [Count.series] at hmem ⊢
  exact hmem.symm

end Meter

/-- is it counted here that a draft was handed in -/
def Count.isAutosaved : Count → Bool
  | .autosaved _ => true
  | _ => false

theorem Meter.sum_autosaved (meter : Meter) :
    ((Spelled.all : List Outcome).map fun outcome => meter.value (.autosaved outcome)).sum =
      meter.countP Count.isAutosaved := by
  induction meter with
  | nil => rfl
  | cons head rest ih =>
    simp only [Spelled.all, Meter.value, List.map_cons, List.map_nil, List.sum_cons, List.sum_nil, List.count_cons,
      List.countP_cons] at ih ⊢
    cases head with
    | autosaved outcome => cases outcome <;> simp [Count.isAutosaved] <;> omega
    | _ => simpa [Count.isAutosaved] using ih

/-! ## What a submission counts -/

/-- only a draft that is handed in is counted as such, and it is recorded if it was added or took another one's place -/
theorem History.countsOf_cases {history : History} {stamp : Stamp} {submission : Submission} {decision : Decision}
    (h : history.submit stamp submission = .ok decision) :
    (submission.isDraft = false ∧ (Service.countsOf submission decision.change = [] ∨
        Service.countsOf submission decision.change = [.recorded false])) ∨
      (submission.isDraft = true ∧ ∃ outcome,
        (Service.countsOf submission decision.change = [.recorded true, .autosaved outcome] ∧
            (outcome = .appended ∨ outcome = .replaced)) ∨
          (Service.countsOf submission decision.change = [.autosaved outcome] ∧ outcome ≠ .appended ∧
            outcome ≠ .replaced)) := by
  cases submission with
  | append response =>
    obtain ⟨-, rfl⟩ := record_eq_ok h
    exact .inl ⟨rfl, .inr rfl⟩
  | finish response =>
    have hrecord : history.record response .finished stamp = .ok decision := h
    obtain ⟨-, rfl⟩ := record_eq_ok hrecord
    exact .inl ⟨rfl, .inr rfl⟩
  | grade verdict response =>
    obtain ⟨-, rfl⟩ := record_eq_ok h
    exact .inl ⟨rfl, .inr rfl⟩
  | save response =>
    obtain ⟨-, rfl⟩ := whenOpen_eq_ok h
    refine .inl ⟨rfl, ?_⟩
    rcases save_cases history response stamp with hsave | hsave
    · exact .inl (by rw [hsave]; rfl)
    · exact .inr (by rw [hsave]; rfl)
  | autosave response =>
    obtain ⟨-, rfl⟩ := whenOpen_eq_ok h
    refine .inr ⟨rfl, ?_⟩
    rcases autosave_cases history response stamp with hsave | hsave | ⟨outcome, houtcome, hsave⟩
    · exact ⟨.unchanged, .inr ⟨by rw [hsave]; rfl, by decide, by decide⟩⟩
    · exact ⟨.reverted, .inr ⟨by rw [hsave]; rfl, by decide, by decide⟩⟩
    · exact ⟨outcome, .inl ⟨by rw [hsave]; rfl, houtcome⟩⟩

/-- the real steps of an attempt grow by those that are counted -/
theorem History.Effect.length_realSteps {history : History} {stamp : Stamp} {decision : Decision}
    (h : Effect history stamp decision) (hmarked : history.Marked) (submission : Submission) :
    (AttemptLog.realSteps decision.history.steps).length =
      (AttemptLog.realSteps history.steps).length +
        (Service.countsOf submission decision.change).count (.recorded false) := by
  have hdrafts : (if submission.isDraft then [Count.autosaved decision.change.outcome] else []).count
      (.recorded false) = 0 := by
    split <;> simp
  rw [(h.marked hmarked).realSteps_steps, hmarked.realSteps_steps, Service.countsOf, List.count_append, hdrafts]
  cases h with
  | keep => simp
  | drop => simp [dropDraft, History.realSteps]
  | draft => simp [following, History.realSteps]
  | push => simp [History.push, following, History.realSteps]

theorem Store.isConflict_create {store : Store} {attempt : Attempt} {first : Step} {failure : Failure}
    (h : store.create attempt first = .error failure) : failure.isConflict = false := by
  unfold Store.create at h
  split at h
  · cases h
    rfl
  · cases h

namespace Ticket

/-- how a call ended, and what it has counted -/
inductive Tally (ticket : Ticket) : Report Answer → Prop where
  | began {answer : Answer} (hcall : ticket.call.submission? = none) : Tally ticket ⟨.ok answer, [.started]⟩
  | read {answer : Answer} (hcall : ticket.call.submission? = none) : Tally ticket ⟨.ok answer, []⟩
  | failed {failure : Failure} (hfailure : failure.isConflict = false) : Tally ticket ⟨.error failure, []⟩
  | accepted {submission : Submission} {history : History} {decision : Decision}
    (hcall : ticket.call.submission? = some submission)
    (hsubmit : history.submit ticket.issue.stamp submission = .ok decision) :
      Tally ticket (submission.accepted decision)
  | refused {submission : Submission} (failure : Failure) (hcall : ticket.call.submission? = some submission) :
    Tally ticket (submission.refused failure)

theorem Course.tally {ticket : Ticket} {asked : List StoreAsked} {report : Report Answer}
    (h : ticket.Course asked report) : ticket.Tally report := by
  have hsubmission : ∀ {id submission expected}, ticket.call = .submit id submission expected →
      ticket.call.submission? = some submission := fun hcall => by rw [hcall]; rfl
  cases h with
  | began hcall hcreate => exact .began (by rw [hcall]; rfl)
  | notBegun hcall hcreate => exact .failed (Store.isConflict_create hcreate)
  | unknown htarget hattempt => exact .failed rfl
  | unreadable htarget hattempt hhistory =>
    obtain ⟨flaw, rfl⟩ := History.ofSteps_eq_error hhistory
    exact .failed rfl
  | read htarget hreads hseen => exact .read hreads
  | rejected hcall hseen hdecide => exact .refused _ (hsubmission hcall)
  | lost hcall hseen hdecide hchange hcommit => exact .refused _ (hsubmission hcall)
  | idle hcall hseen hdecide hchange => exact .accepted (hsubmission hcall) (View.decide_eq_ok hdecide).2
  | changed hcall hseen hdecide hchange hcommit => exact .accepted (hsubmission hcall) (View.decide_eq_ok hdecide).2

/-- did the call hand in a draft, and did that succeed -/
def savedDraft (ticket : Ticket) (report : Report Answer) : Bool :=
  ticket.call.submission?.any Submission.isDraft && report.result.isOk

/-- did the call hand in something of this name, and was it told that the last step was another one -/
def metConflict (operation : String) (ticket : Ticket) (report : Report Answer) : Bool :=
  ticket.call.submission?.any (fun submission => submission.name == operation) &&
    match report.result with
    | .error failure => failure.isConflict
    | .ok _ => false

namespace Tally

variable {ticket : Ticket} {report : Report Answer}

/-- a draft is recorded if it was added or took another one's place -/
theorem count_drafts (h : ticket.Tally report) :
    report.counts.count (.recorded true) =
      report.counts.count (.autosaved .appended) + report.counts.count (.autosaved .replaced) := by
  cases h with
  | accepted hcall hsubmit =>
    simp only [Submission.accepted]
    rcases History.countsOf_cases hsubmit with ⟨-, hcounts | hcounts⟩ |
      ⟨-, outcome, ⟨hcounts, rfl | rfl⟩ | ⟨hcounts, ha, hr⟩⟩
    · simp [hcounts]
    · simp [hcounts]
    · simp [hcounts]
    · simp [hcounts]
    · simp [hcounts, ha, hr]
  | refused failure hcall =>
    simp only [Submission.refused]
    split <;> simp
  | _ => simp

/-- a draft that is handed in is counted once if that succeeds -/
theorem count_autosaves (h : ticket.Tally report) :
    report.counts.countP Count.isAutosaved = if ticket.savedDraft report then 1 else 0 := by
  cases h with
  | accepted hcall hsubmit =>
    simp only [Submission.accepted, savedDraft, hcall, Option.any_some, Except.isOk, Except.toBool, Bool.and_true]
    rcases History.countsOf_cases hsubmit with ⟨hdraft, hcounts | hcounts⟩ |
      ⟨hdraft, outcome, ⟨hcounts, -⟩ | ⟨hcounts, -⟩⟩ <;>
      simp [hcounts, hdraft, Count.isAutosaved]
  | refused failure hcall =>
    simp only [Submission.refused, savedDraft, Except.isOk, Except.toBool, Bool.and_false]
    split <;> simp [Count.isAutosaved]
  | began hcall | read hcall => simp [savedDraft, hcall, Count.isAutosaved]
  | failed hfailure => simp [savedDraft, Except.isOk, Except.toBool]

/-- a conflict is counted once, under the name of what was handed in -/
theorem count_conflicts (h : ticket.Tally report) (operation : String) :
    report.counts.count (.conflict operation) = if ticket.metConflict operation report then 1 else 0 := by
  cases h with
  | accepted hcall hsubmit =>
    simp only [Submission.accepted, metConflict, Bool.and_false]
    rcases History.countsOf_cases hsubmit with ⟨-, hcounts | hcounts⟩ | ⟨-, outcome, ⟨hcounts, -⟩ | ⟨hcounts, -⟩⟩ <;>
      simp [hcounts]
  | @refused submission failure hcall =>
    simp only [Submission.refused, metConflict, hcall, Option.any_some]
    cases hconflict : failure.isConflict <;> simp [List.count_singleton]
  | began hcall | read hcall => simp [metConflict, hcall]
  | failed hfailure => simp [metConflict, hfailure]

end Tally

end Ticket

/-! ## What the store holds -/

theorem sum_pred_add_length {names : List String} {number : String → Nat} (h : ∀ name ∈ names, 1 ≤ number name) :
    (names.map fun name => number name - 1).sum + names.length = (names.map number).sum := by
  induction names with
  | nil => rfl
  | cons name rest ih =>
    have hname := h name List.mem_cons_self
    have hrest := ih fun other hmem => h other (List.mem_cons_of_mem name hmem)
    simp only [List.map_cons, List.sum_cons, List.length_cons]
    omega

def Store.realCount (store : Store) : Nat := store.steps.total fun steps => (realSteps steps).length

namespace Traffic

/-- what all calls that are done have counted -/
def meter (traffic : Traffic) : Meter := traffic.endings.flatMap (·.result.counts)

/-- is each attempt counted, and each real step but the first one of each attempt -/
structure Tallied (traffic : Traffic) : Prop where
  attempts : traffic.meter.value .started = traffic.state.attempts.size
  steps : traffic.meter.value (.recorded false) + traffic.state.attempts.size = traffic.state.realCount

/-- what is counted of attempts and of real steps is what the store grew by -/
structure GrownBy (before after : Store) (counts : List Count) : Prop where
  attempts : after.attempts.size = before.attempts.size + counts.count .started
  steps : after.realCount = before.realCount + counts.count (.recorded false) + counts.count .started

/-- a refusal counts nothing that is stored -/
theorem GrownBy.refused (store : Store) (submission : Submission) (failure : Failure) :
    GrownBy store store (submission.refused failure).counts := by
  cases hconflict : failure.isConflict <;> constructor <;> simp [Submission.refused, hconflict]

theorem GrownBy.start {traffic : Traffic} (h : Sane traffic) {attempt : Attempt} {stamp : Stamp}
    (hnew : traffic.state.attempts.get? attempt.id = none) :
    GrownBy traffic.state ⟨traffic.state.attempts.insert attempt.id attempt,
      traffic.state.steps.insert attempt.id (History.start attempt.id stamp).steps⟩ [.started] := by
  have hfirst : (realSteps (History.start attempt.id stamp).steps).length = 1 := by
    simp [realSteps, History.start, History.steps, History.realSteps]
  have hattempts := traffic.state.attempts.total_insert attempt.id attempt fun _ => 1
  have hsteps := traffic.state.steps.total_insert attempt.id (History.start attempt.id stamp).steps
    fun steps => (realSteps steps).length
  rw [Keyed.total_one, Keyed.total_one, hnew] at hattempts
  rw [h.steps_eq_none hnew, hfirst] at hsteps
  exact ⟨by simpa using hattempts, by simpa [Store.realCount] using hsteps⟩

theorem GrownBy.submit {store : Store} {id : String} {submission : Submission} {expected : Option String}
    {stamp : Stamp} {view : View} {decision : Decision} (hview : store.view id = .ok view)
    (hdecide : view.decide submission expected stamp = .ok decision) :
    GrownBy store (store.keep id decision.history) (submission.accepted decision).counts := by
  have hsubmit := (View.decide_eq_ok hdecide).2
  have hgrown := (History.submit_effect hsubmit).length_realSteps (Store.view_steps hview).2.2 submission
  have hstarted : (Service.countsOf submission decision.change).count .started = 0 := by
    rcases History.countsOf_cases hsubmit with ⟨-, hcounts | hcounts⟩ | ⟨-, outcome, ⟨hcounts, -⟩ | ⟨hcounts, -⟩⟩ <;>
      simp [hcounts]
  have hsteps := store.steps.total_insert id decision.history.steps fun steps => (realSteps steps).length
  rw [Store.get?_of_view hview, Option.map_some, Option.getD_some] at hsteps
  constructor
  · simp [Store.keep, Submission.accepted, hstarted]
  · simp only [Store.realCount, Store.keep, Submission.accepted, hstarted]
    omega

/-- **What a call counts when it is alone is what it adds to the store.** -/
theorem perform_grownBy {traffic : Traffic} (h : Sane traffic) (ticket : Ticket) :
    GrownBy traffic.state (ticket.perform traffic.state).2 (ticket.perform traffic.state).1.counts := by
  obtain ⟨call, issue⟩ := ticket
  cases call with
  | render id | load id | size id | last id => exact ⟨rfl, rfl⟩
  | start questionId userId =>
    cases hcontains : traffic.state.attempts.contains issue.attemptId with
    | true =>
      simp only [Ticket.perform, hcontains, ite_true]
      exact ⟨rfl, rfl⟩
    | false =>
      simp only [Ticket.perform, hcontains, Bool.false_eq_true, ite_false]
      have hnew : traffic.state.attempts.get? (Attempt.mk issue.attemptId questionId userId issue.now).id = none :=
        Keyed.contains_eq_false_iff.1 hcontains
      exact .start h hnew
  | submit id submission expected =>
    cases hview : traffic.state.view id with
    | error failure =>
      simp only [Ticket.perform, Store.decide, hview]
      exact .refused _ _ _
    | ok view =>
      cases hdecide : view.decide submission expected issue.stamp with
      | error failure =>
        simp only [Ticket.perform, Store.decide, hview, hdecide]
        exact .refused _ _ _
      | ok decision =>
        simp only [Ticket.perform, Store.decide, hview, hdecide]
        exact .submit hview hdecide

/-- **What one move counts is what it adds to the store**: nothing while a call goes on or when its change is refused,
and otherwise what the call adds when it is alone. -/
theorem step_grownBy {traffic : Traffic} (h : Inv traffic) (move : Move Ticket) :
    ∃ counts, (traffic.step move).meter = traffic.meter ++ counts ∧
      GrownBy traffic.state (traffic.step move).state counts := by
  cases move with
  | enter ticket =>
    obtain ⟨request, next, hprogram⟩ := ticket.program_asks
    refine ⟨[], ?_, rfl, rfl⟩
    simp [meter, Traffic.step, World.step, hprogram, endingOf]
  | advance place =>
    rcases World.step_advance_cases Store.answer Ticket.program traffic place with hsame | ⟨ticket, request, next, hjob⟩
    · rw [Traffic.step, hsame]
      exact ⟨[], by simp, rfl, rfl⟩
    · obtain ⟨rest, state, hanswered, hstep⟩ := answered_step h hjob
      rw [hstep]
      cases hanswered with
      | goesOn hphase => exact ⟨[], by simp [meter, endingOf], rfl, rfl⟩
      | performs hcommit => exact ⟨_, by simp [meter, endingOf], perform_grownBy h.toSane ticket⟩
      | @refused id expected change submission steps hrequest hsteps hlast =>
        have hgrown := GrownBy.refused traffic.state submission (.conflict expected (Store.lastId steps))
        exact ⟨_, by simp [meter, endingOf], hgrown⟩

/-- **One move keeps the counts and the store together.** -/
theorem step_tallied {traffic : Traffic} (h : Inv traffic) (htallied : Tallied traffic) (move : Move Ticket) :
    Tallied (traffic.step move) := by
  obtain ⟨counts, hmeter, hgrown⟩ := step_grownBy h move
  have hattempts := hgrown.attempts
  have hsteps := hgrown.steps
  obtain ⟨hstarted, hrecorded⟩ := htallied
  rw [Meter.value] at hstarted hrecorded
  constructor
  · rw [hmeter, Meter.value, List.count_append]
    omega
  · rw [hmeter, Meter.value, List.count_append]
    omega

/-- **The counts and the store stay together in every schedule.** -/
theorem after_tallied {moves : List (Move Ticket)} (hfresh : IsFresh moves) : Tallied (after moves) := by
  induction moves using List.reverseRecOn with
  | nil => exact ⟨rfl, rfl⟩
  | append_singleton moves move ih =>
    rw [after_concat]
    exact step_tallied (after_inv hfresh.of_append) (ih hfresh.of_append) move

theorem sum_real_pred {traffic : Traffic} (h : Sane traffic) :
    (∀ id ∈ traffic.state.attempts.names, 1 ≤ (realSteps (traffic.state.stepsOf id)).length) ∧
      (traffic.state.attempts.names.map fun id => (realSteps (traffic.state.stepsOf id)).length - 1).sum +
          traffic.state.attempts.size = traffic.state.realCount := by
  have hnames : traffic.state.steps.names = traffic.state.attempts.names := Keyed.names_eq fun id => (h.paired id).symm
  have hpos : ∀ id ∈ traffic.state.attempts.names, 1 ≤ (realSteps (traffic.state.stepsOf id)).length := by
    intro id hmem
    rw [← hnames, Keyed.mem_names_iff, Option.isSome_iff_exists] at hmem
    obtain ⟨steps, hsteps⟩ := hmem
    rw [Store.stepsOf_of_get? hsteps]
    exact List.length_pos_of_ne_nil (h.kept id steps hsteps).realSteps.ne_nil
  have htotal : traffic.state.realCount =
      (traffic.state.attempts.names.map fun id => (realSteps (traffic.state.stepsOf id)).length).sum := by
    rw [← hnames]
    exact Keyed.total_eq_sum_names _ _ fun id steps hsteps => by rw [Store.stepsOf_of_get? hsteps]
  have hsize : traffic.state.attempts.names.length = traffic.state.attempts.size := List.length_map _
  refine ⟨hpos, ?_⟩
  rw [htotal, ← hsize]
  exact sum_pred_add_length hpos

theorem tally_of_ending {moves : List (Move Ticket)} {ending : Ending storeInterface Ticket (Report Answer)}
    (hmem : ending ∈ (after moves).endings) : ending.ticket.Tally ending.result :=
  (Ticket.course_of_goes (World.goes_ending hmem)).tally

/-- what each call counts once if something is the case for it is counted as often as this is the case -/
theorem countP_meter (moves : List (Move Ticket)) {counted : Count → Bool} {happened : Ticket → Report Answer → Bool}
    (h : ∀ {ticket report}, Ticket.Tally ticket report →
      report.counts.countP counted = if happened ticket report then 1 else 0) :
    (after moves).meter.countP counted = (after moves).endings.countP fun ending =>
      happened ending.ticket ending.result := by
  have htally : ∀ ending ∈ (after moves).endings, ending.ticket.Tally ending.result := fun ending => tally_of_ending
  rw [meter]
  generalize (after moves).endings = endings at htally ⊢
  induction endings with
  | nil => rfl
  | cons ending rest ih =>
    have hrest := ih fun other hmem => htally other (List.mem_cons_of_mem ending hmem)
    rw [List.flatMap_cons, List.countP_append, List.countP_cons, hrest, h (htally ending List.mem_cons_self)]
    omega

theorem value_drafts (moves : List (Move Ticket)) :
    (after moves).meter.value (.recorded true) =
      (after moves).meter.value (.autosaved .appended) + (after moves).meter.value (.autosaved .replaced) := by
  simp only [Meter.value, meter, List.count_flatMap, ← List.sum_map_add]
  congr 1
  exact List.map_congr_left fun ending hmem => (tally_of_ending hmem).count_drafts

/-- **What is counted agrees with the store.** Let calls come in and be answered in any order, beginning with an empty
store and with identities that are all different. A call counts what it did when it is done.
- As many attempts have begun as the store holds.
- The real steps that were recorded are those that the store holds, without the first one of each attempt.
- As many drafts were recorded as were added or took another one's place.
- The drafts that were handed in are, whatever became of them, as many as the calls that did so with success.
- For each kind of submission as many conflicts are counted as calls failed by one.
- Each call that is done has exactly one ending. -/
theorem counts_agree {moves : List (Move Ticket)} (hfresh : IsFresh moves) :
    (after moves).meter.seriesValue (.startedAttempts, []) = (after moves).state.attempts.size ∧
      ((∀ id ∈ (after moves).state.attempts.names, 1 ≤ (realSteps ((after moves).state.stepsOf id)).length) ∧
        (after moves).meter.seriesValue (.recordedSteps, [("kind", "real")]) =
          ((after moves).state.attempts.names.map fun id =>
            (realSteps ((after moves).state.stepsOf id)).length - 1).sum) ∧
      (after moves).meter.seriesValue (.recordedSteps, [("kind", "autosave")]) =
        (after moves).meter.seriesValue (.autosaves, [("outcome", "appended")]) +
          (after moves).meter.seriesValue (.autosaves, [("outcome", "replaced")]) ∧
      ((Spelled.all : List Outcome).map fun outcome =>
          (after moves).meter.seriesValue (.autosaves, [("outcome", spelling outcome)])).sum =
        (after moves).endings.countP (fun ending => ending.ticket.savedDraft ending.result) ∧
      (∀ operation, (after moves).meter.seriesValue (.conflicts, [("operation", operation)]) =
        (after moves).endings.countP fun ending => ending.ticket.metConflict operation ending.result) ∧
      (after moves).Settled := by
  obtain ⟨hattempts, hsteps⟩ := after_tallied hfresh
  obtain ⟨hpos, hreal⟩ := sum_real_pred (after_inv hfresh).toSane
  refine ⟨?_, ⟨hpos, ?_⟩, ?_, ?_, ?_, World.run_settled _ _⟩
  · rw [Meter.seriesValue_started, hattempts]
  · have hvalue := Meter.seriesValue_recorded (after moves).meter false
    simp only [Bool.false_eq_true, ite_false] at hvalue
    omega
  · have hvalue := Meter.seriesValue_recorded (after moves).meter true
    have happended := Meter.seriesValue_autosaved (after moves).meter .appended
    have hreplaced := Meter.seriesValue_autosaved (after moves).meter .replaced
    simp only [ite_true, spelling] at hvalue happended hreplaced
    rw [hvalue, happended, hreplaced, value_drafts]
  · simp only [Meter.seriesValue_autosaved, Meter.sum_autosaved]
    exact countP_meter moves Ticket.Tally.count_autosaves
  · intro operation
    rw [Meter.seriesValue_conflict]
    exact countP_meter moves fun htally => htally.count_conflicts operation

/-- a draft is saved and saved again, and then two calls read the steps before either of them hands its response in -/
def draftsAndRace : List (Move Ticket) :=
  let response (text : String) : Response := Keyed.empty.insert "answer" text
  let submit (submission : Submission) (stepId : String) : Move Ticket :=
    .enter ⟨.submit "attempt" submission none, ⟨"", stepId, .year2024⟩⟩
  [.enter ⟨.start "question" "user", ⟨"attempt", "first", .year2024⟩⟩, .advance 0,
    submit (.autosave (response "1")) "second", .advance 1, .advance 1, .advance 1,
    submit (.autosave (response "2")) "third", .advance 2, .advance 2, .advance 2,
    submit (.append (response "3")) "fourth", submit (.append (response "4")) "fifth",
    .advance 3, .advance 3, .advance 4, .advance 4, .advance 3, .advance 4]

theorem counts_agree_drafts_and_race :
    IsFresh draftsAndRace ∧ (after draftsAndRace).state.attempts.size = 1 ∧
      ((after draftsAndRace).state.attempts.names.map fun id =>
        (realSteps ((after draftsAndRace).state.stepsOf id)).length - 1).sum = 1 ∧
      (after draftsAndRace).meter.seriesValue (.recordedSteps, [("kind", "autosave")]) = 2 ∧
      (after draftsAndRace).endings.countP (fun ending => ending.ticket.savedDraft ending.result) = 2 ∧
      (after draftsAndRace).endings.countP (fun ending => ending.ticket.metConflict "append" ending.result) = 1 := by
  have hfresh : IsFresh draftsAndRace := by decide
  obtain ⟨hattempts, ⟨-, hreal⟩, hdrafts, hautosaves, hconflicts, -⟩ := counts_agree hfresh
  refine ⟨hfresh, hattempts.symm.trans ?_, hreal.symm.trans ?_, hdrafts.trans ?_, hautosaves.symm.trans ?_,
    (hconflicts "append").symm.trans ?_⟩ <;> decide +kernel

end Traffic

end AttemptLog
