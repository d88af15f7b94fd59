import AttemptLog.Proofs.History.Closing
import AttemptLog.Proofs.History.Collision
import AttemptLog.Proofs.History.Reread
/-!
Logs in one list, on which operations work in place.

A `History` keeps the last real step apart from the others, so it cannot fail to have one. A `Journal` is the plain
list of all steps: a step is found by counting places back from the end, the draft is taken off the end, and a new
step counts on from the number of the last real one. Such work comes to nothing if it looks at a place where no step
is, or counts on from the greatest number, and if it fails it may leave any journal behind.

`act_on` says that an operation on the journal of a history comes to what it comes to on the history, and to nothing
only where a step is to be added and numbers have run out. `operations_safe` draws the conclusion for stored logs.
-/
namespace AttemptLog

/-- the steps of an attempt in one list -/
structure Journal where
  attemptId : String
  steps : List Step
  deriving DecidableEq

/-- the number after another one, unless that is the greatest -/
def nextNumber? (number : UInt32) : Option UInt32 :=
  if number.toNat + 1 < UInt32.size then some (number + 1) else none

namespace Journal

/-- the step so many places before the end -/
def fromEnd? (journal : Journal) (places : Nat) : Option Step :=
  if places ≤ journal.steps.length then journal.steps[journal.steps.length - places]? else none

def last? (journal : Journal) : Option Step := journal.fromEnd? 1

/-- the draft at the end; that there is none is no fault -/
def draft? (journal : Journal) : Option Step := journal.steps.getLast?.filter fun step => step.isDraft

/-- the last real step, which stands before the draft if there is one -/
def lastReal? (journal : Journal) : Option Step :=
  match journal.draft? with
  | some _ => journal.fromEnd? 2
  | none => journal.last?

def isClosed (journal : Journal) : Bool := journal.steps.any Step.closes

def following? (journal : Journal) (response : Response) (state : State) (isDraft : Bool) (stamp : Stamp) :
    Option Step := do
  let number ← nextNumber? (← journal.lastReal?).number
  return ⟨stamp.id, journal.attemptId, number, state, response, stamp.time, isDraft⟩

/-- work on a journal, which fails or comes to something, and in both cases leaves a journal behind -/
abbrev Work (α : Type) := ExceptT Failure (StateT Journal Option) α

def Work.on {α : Type} (work : Work α) (journal : Journal) : Option (Except Failure α × Journal) := work.run.run journal

def ensureOpen : Work Unit := do
  let journal ← get
  if journal.isClosed then throw (.finished journal.attemptId)

/-- takes the draft off the end, and gives its identity -/
def takeDraft : Work (Option String) := do
  let journal ← get
  match journal.draft? with
  | none => return none
  | some draft =>
    set { journal with steps := journal.steps.dropLast }
    return some draft.id

def add (response : Response) (state : State) (isDraft : Bool) (stamp : Stamp) : Work Step := do
  let journal ← get
  let step ← journal.following? response state isDraft stamp
  set { journal with steps := journal.steps ++ [step] }
  return step

/-- puts a step in the place of the draft, or at the end if there is none -/
def putLast (outcome : Option String → Outcome) (response : Response) (state : State) (isDraft : Bool) (stamp : Stamp) :
    Work Change := do
  let removed ← takeDraft
  let step ← add response state isDraft stamp
  return ⟨outcome removed, removed, some step⟩

def record (response : Response) (state : State) (stamp : Stamp) : Work Change := do
  unless state.isVerdict do ensureOpen
  putLast (fun _ => .appended) response state false stamp

/-- records a real step unless the response is that of the last one -/
def save (response : Response) (stamp : Stamp) : Work Change := do
  ensureOpen
  let real ← (← get).lastReal?
  if response = real.response then
    let removed ← takeDraft
    return ⟨.discarded, removed, none⟩
  else record response (.ofResponse response) stamp

def autosave (response : Response) (stamp : Stamp) : Work Change := do
  ensureOpen
  let journal ← get
  let real ← journal.lastReal?
  if response = real.response then
    let removed ← takeDraft
    return ⟨if removed.isSome then .reverted else .unchanged, removed, none⟩
  else if journal.draft?.any fun draft => draft.response = response then return ⟨.unchanged, none, none⟩
  else
    let outcome (removed : Option String) : Outcome := if removed.isSome then .replaced else .appended
    putLast outcome response (.ofResponse response) true stamp

def grade (verdict : Verdict) (response : Option Response) (stamp : Stamp) : Work Change := do
  match response with
  | some response => record response verdict.state stamp
  | none =>
    let real ← (← get).lastReal?
    record real.response verdict.state stamp

def act (stamp : Stamp) : Action → Work Change
  | .submit (.append response) => record response (.ofResponse response) stamp
  | .submit (.save response) => save response stamp
  | .submit (.finish response) => record response .finished stamp
  | .submit (.grade verdict response) => grade verdict response stamp
  | .submit (.autosave response) => autosave response stamp
  | .record response state => record response state stamp

/-! ## Work, piece by piece -/

namespace Work

variable {α β : Type} {work : Work α} {go : α → Work β} {journal next : Journal}

theorem on_bind_ok {value : α} (h : work.on journal = some (.ok value, next)) :
    (work >>= go).on journal = (go value).on next := by
  simp only [on, ExceptT.run_bind, StateT.run_bind] at h ⊢
  rw [h]
  rfl

theorem on_bind_error {failure : Failure} (h : work.on journal = some (.error failure, next)) :
    (work >>= go).on journal = some (.error failure, next) := by
  simp only [on, ExceptT.run_bind, StateT.run_bind] at h ⊢
  rw [h]
  rfl

theorem on_bind_none (h : work.on journal = none) : (work >>= go).on journal = none := by
  simp only [on, ExceptT.run_bind, StateT.run_bind] at h ⊢
  rw [h]
  rfl

@[simp]
theorem on_pure (value : α) (journal : Journal) : (pure value : Work α).on journal = some (.ok value, journal) := rfl

@[simp]
theorem on_get_bind (go : Journal → Work β) (journal : Journal) :
    ((get : Work Journal) >>= go).on journal = (go journal).on journal := rfl

@[simp]
theorem on_set_bind (go : PUnit → Work β) (journal next : Journal) :
    ((set next : Work PUnit) >>= go).on journal = (go ⟨⟩).on next := rfl

@[simp]
theorem on_lift_bind (found : Option α) (go : α → Work β) (journal : Journal) :
    ((liftM found : Work α) >>= go).on journal = found.bind fun value => (go value).on journal := by
  cases found <;> rfl

end Work

end Journal

/-! ## The journal of a history -/

namespace History

open Journal

def journal (history : History) : Journal := ⟨history.attemptId, history.steps⟩

def CanCount (history : History) : Prop := history.current.number.toNat + 1 < UInt32.size

instance (history : History) : Decidable history.CanCount := inferInstanceAs (Decidable (_ < _))

/-- what it comes to on the journal if an operation comes to this on the history: a failure leaves the journal as it
is, and a step is added only if there is a number for it -/
def noted (history : History) : Except Failure Decision → Option (Except Failure Change × Journal)
  | .error failure => some (.error failure, history.journal)
  | .ok decision =>
    if decision.change.appended.isSome ∧ ¬ history.CanCount then none
    else some (.ok decision.change, decision.history.journal)

variable {history : History}

theorem last?_journal (history : History) : history.journal.last? = some history.last := by
  have hpos : 1 ≤ history.steps.length := List.length_pos_iff.2 history.steps_ne_nil
  rw [last?, fromEnd?, journal, if_pos hpos, ← List.getLast?_eq_getElem?, getLast?_steps]

theorem draft?_journal (h : history.Marked) : history.journal.draft? = history.draft := by
  simp only [draft?, journal, getLast?_steps, last]
  cases hdraft : history.draft with
  | none =>
    have hreal : history.current.isDraft = false := h.real _ (by simp [History.realSteps])
    simp [hreal]
  | some draft =>
    have hmarked : draft.isDraft = true := h.draft draft hdraft
    simp [hmarked]

/-- **The last real step is found at its place**: the last one, or the one before the draft. -/
theorem lastReal?_journal (h : history.Marked) : history.journal.lastReal? = some history.current := by
  rw [lastReal?, draft?_journal h]
  cases hdraft : history.draft with
  | none =>
    have hlast : history.last = history.current := by simp [last, hdraft]
    simp only [last?_journal, hlast]
  | some draft => simp [fromEnd?, journal, steps, History.realSteps, hdraft]

theorem isClosed_journal (h : history.Marked) : history.journal.isClosed = history.isClosed := by
  rw [Bool.eq_iff_iff, isClosed_iff h]
  simp [Journal.isClosed, journal]

theorem following?_journal (h : history.Marked) (response : Response) (state : State) (isDraft : Bool) (stamp : Stamp) :
    history.journal.following? response state isDraft stamp =
      if history.CanCount then some (history.following response state isDraft stamp) else none := by
  simp only [following?, lastReal?_journal h, Option.bind_eq_bind, Option.bind_some, nextNumber?, CanCount]
  by_cases hcount : history.current.number.toNat + 1 < UInt32.size
  · simp only [hcount, ite_true]
    rfl
  · simp only [hcount, ite_false]
    rfl

theorem ensureOpen_on (h : history.Marked) :
    ensureOpen.on history.journal =
      some (if history.isClosed then .error (.finished history.attemptId) else .ok (), history.journal) := by
  simp only [ensureOpen, Work.on_get_bind, isClosed_journal h]
  cases history.isClosed with
  | true => rfl
  | false => rfl

theorem takeDraft_on (h : history.Marked) :
    takeDraft.on history.journal = some (.ok (history.draft.map (·.id)), history.bare.journal) := by
  simp only [takeDraft, Work.on_get_bind, draft?_journal h]
  cases hdraft : history.draft with
  | none =>
    simp only [Work.on_pure]
    simp [journal, bare, steps, History.realSteps, hdraft]
  | some draft =>
    simp only [Work.on_set_bind, Work.on_pure]
    simp [journal, bare, steps, History.realSteps, hdraft]

/-- a step is put after the real ones, if there is a number for it -/
theorem add_on (h : history.Marked) (response : Response) (state : State) (isDraft : Bool) (stamp : Stamp) :
    (add response state isDraft stamp).on history.bare.journal =
      if history.CanCount then
        some (.ok (history.following response state isDraft stamp),
          ⟨history.attemptId, history.realSteps ++ [history.following response state isDraft stamp]⟩)
      else none := by
  have hsame : history.bare.CanCount ↔ history.CanCount := Iff.rfl
  simp only [add, Work.on_get_bind, Work.on_lift_bind, following?_journal h.bare, hsame]
  split
  · simp only [Option.bind_some, Work.on_set_bind, Work.on_pure]
    simp [journal, following, bare, steps, History.realSteps]
  · rfl

theorem putLast_on (h : history.Marked) (outcome : Option String → Outcome) (response : Response) (state : State)
    (isDraft : Bool) (stamp : Stamp) :
    (putLast outcome response state isDraft stamp).on history.journal =
      if history.CanCount then
        some (.ok ⟨outcome (history.draft.map (·.id)), history.draft.map (·.id),
            some (history.following response state isDraft stamp)⟩,
          ⟨history.attemptId, history.realSteps ++ [history.following response state isDraft stamp]⟩)
      else none := by
  rw [putLast, Work.on_bind_ok (takeDraft_on h)]
  have hadd := add_on h response state isDraft stamp
  by_cases hcount : history.CanCount
  · rw [if_pos hcount] at hadd ⊢
    rw [Work.on_bind_ok hadd]
    rfl
  · rw [if_neg hcount] at hadd ⊢
    exact Work.on_bind_none hadd

/-! ## Operation by operation -/

theorem noted_of_none {decision : Decision} (h : decision.change.appended = none) :
    history.noted (.ok decision) = some (.ok decision.change, decision.history.journal) := by
  simp [noted, h]

theorem noted_of_some {decision : Decision} {step : Step} (h : decision.change.appended = some step)
    (hsteps : decision.history.journal = ⟨history.attemptId, history.realSteps ++ [step]⟩) :
    history.noted (.ok decision) =
      if history.CanCount then some (.ok decision.change, ⟨history.attemptId, history.realSteps ++ [step]⟩)
      else none := by
  by_cases hcount : history.CanCount
  · simp [noted, hcount, hsteps]
  · simp [noted, hcount, h]

theorem putLast_push (h : history.Marked) (response : Response) (state : State) (stamp : Stamp) :
    (putLast (fun _ => .appended) response state false stamp).on history.journal =
      history.noted (.ok (history.push response state stamp)) := by
  have hsteps : (history.push response state stamp).history.journal =
      ⟨history.attemptId, history.realSteps ++ [history.following response state false stamp]⟩ := by
    simp [journal, push, steps, History.realSteps]
  rw [putLast_on h, noted_of_some rfl hsteps]
  rfl

theorem whenOpen_on (h : history.Marked) {work : Work Change} {decision : Decision}
    (hwork : history.isClosed = false → work.on history.journal = history.noted (.ok decision)) :
    (ensureOpen >>= fun _ => work).on history.journal = history.noted (history.whenOpen decision) := by
  have hopen := ensureOpen_on h
  cases hclosed : history.isClosed with
  | true =>
    rw [hclosed] at hopen
    rw [Work.on_bind_error hopen]
    simp [whenOpen, hclosed, noted]
  | false =>
    rw [hclosed] at hopen
    rw [Work.on_bind_ok hopen, hwork hclosed]
    simp [whenOpen, hclosed]

theorem record_on (h : history.Marked) (response : Response) (state : State) (stamp : Stamp) :
    (Journal.record response state stamp).on history.journal = history.noted (history.record response state stamp) := by
  have hpush := putLast_push h response state stamp
  cases hverdict : state.isVerdict with
  | true => simpa [Journal.record, History.record, hverdict] using hpush
  | false =>
    simp only [Journal.record, History.record, hverdict, Bool.false_eq_true, ite_false]
    exact whenOpen_on h fun _ => hpush

theorem save_on (h : history.Marked) (response : Response) (stamp : Stamp) :
    (Journal.save response stamp).on history.journal =
      history.noted (history.whenOpen (history.save response stamp)) := by
  apply whenOpen_on h
  intro hopen
  simp only [Work.on_get_bind, Work.on_lift_bind, lastReal?_journal h, Option.bind_some, History.save]
  by_cases hsame : response = history.current.response
  · rw [if_pos hsame, if_pos hsame, Work.on_bind_ok (takeDraft_on h), noted_of_none rfl]
    rfl
  · have hrecord : history.record response (.ofResponse response) stamp =
        .ok (history.push response (.ofResponse response) stamp) := by
      simp [History.record, whenOpen, hopen]
    rw [if_neg hsame, if_neg hsame, record_on h, hrecord]

theorem journal_drafted (history : History) (step : Step) :
    { history with draft := some step }.journal = ⟨history.attemptId, history.realSteps ++ [step]⟩ := by
  simp [journal, steps, History.realSteps]

theorem autosave_on (h : history.Marked) (response : Response) (stamp : Stamp) :
    (Journal.autosave response stamp).on history.journal =
      history.noted (history.whenOpen (history.autosave response stamp)) := by
  apply whenOpen_on h
  intro hopen
  simp only [Work.on_get_bind, Work.on_lift_bind, lastReal?_journal h, draft?_journal h, Option.bind_some,
    History.autosave]
  by_cases hsame : response = history.current.response
  · rw [if_pos hsame, Work.on_bind_ok (takeDraft_on h)]
    cases hdraft : history.draft with
    | none => simp [hsame, noted_of_none, bare, ← hdraft]
    | some draft => simp [hsame, noted_of_none, dropDraft, bare, hdraft]
  · rw [if_neg hsame]
    cases hdraft : history.draft with
    | none =>
      simp only [Option.any_none, Bool.false_eq_true, ite_false, hsame]
      rw [putLast_on h, noted_of_some rfl (journal_drafted _ _), hdraft]
      rfl
    | some draft =>
      simp only [Option.any_some, decide_eq_true_eq, hsame, ite_false]
      by_cases hdrafted : draft.response = response
      · rw [if_pos hdrafted, if_pos hdrafted, noted_of_none rfl]
        rfl
      · rw [if_neg hdrafted, if_neg hdrafted, putLast_on h, noted_of_some rfl (journal_drafted _ _), hdraft]
        rfl

/-- **An operation on a journal comes to what it comes to on the history**, and to nothing only where a step is to be
added and there is no number for it. -/
theorem act_on (h : history.Marked) (stamp : Stamp) (action : Action) :
    (Journal.act stamp action).on history.journal = history.noted (history.act stamp action) := by
  cases action with
  | record response state => exact record_on h response state stamp
  | submit submission =>
    cases submission with
    | append response => exact record_on h response _ stamp
    | save response => exact save_on h response stamp
    | finish response => exact record_on h response .finished stamp
    | autosave response => exact autosave_on h response stamp
    | grade verdict response =>
      cases response with
      | some response => exact record_on h response verdict.state stamp
      | none =>
        simp only [Journal.act, Journal.grade, Work.on_get_bind, Work.on_lift_bind, lastReal?_journal h,
          Option.bind_some]
        exact record_on h history.current.response verdict.state stamp

/-! ## Stored logs -/

theorem eq_of_act_on (h : history.Marked) {operation : Operation} {result : Except Failure Change} {after : Journal}
    (hon : (Journal.act operation.stamp operation.action).on history.journal = some (result, after)) :
    result = (history.act operation.stamp operation.action).map (·.change) ∧
      after = (history.perform operation).2.journal := by
  rw [act_on h] at hon
  unfold perform
  cases hact : history.act operation.stamp operation.action with
  | error failure =>
    rw [hact, noted, Option.some.injEq, Prod.mk.injEq] at hon
    exact ⟨hon.1.symm, hon.2.symm⟩
  | ok decision =>
    rw [hact, noted] at hon
    split at hon
    · cases hon
    · rw [Option.some.injEq, Prod.mk.injEq] at hon
      exact ⟨hon.1.symm, hon.2.symm⟩

/-- while numbers last, every operation comes to something on the journal -/
theorem act_on_of_canCount (h : history.Marked) (hcount : history.CanCount) (operation : Operation) :
    (Journal.act operation.stamp operation.action).on history.journal =
      some ((history.act operation.stamp operation.action).map (·.change), (history.perform operation).2.journal) := by
  rw [act_on h]
  unfold perform
  cases history.act operation.stamp operation.action with
  | error failure => rfl
  | ok decision =>
    simp only [noted, hcount, not_true, and_false, ite_false]
    rfl

theorem canCount_of_numbered (h : Numbered history.realSteps) (hsmall : history.realSteps.length < 2 ^ 32) :
    history.CanCount := by
  rw [CanCount, toNat_number_current h]
  exact hsmall

/-- a step that is added stands after the real steps, and has their number as its own -/
theorem added_last (h : Numbered history.realSteps) (hsmall : history.realSteps.length < 2 ^ 32) {stamp : Stamp}
    {action : Action} {decision : Decision} (hact : history.act stamp action = .ok decision) {step : Step}
    (happended : decision.change.appended = some step) :
    decision.history.steps = history.realSteps ++ [step] ∧ step.number.toNat = history.realSteps.length := by
  have hchange : decision.change.isEmpty = false := by simp [Change.isEmpty, happended]
  have hnumber := ((act_claimsEnd hact hchange).appended step happended).2
  refine ⟨?_, by rw [hnumber, toNat_number_following h hsmall]⟩
  rcases act_steps_eq hact with ⟨-, hnone, -⟩ | ⟨-, hsteps⟩
  · rw [happended] at hnone
    cases hnone
  · rw [hsteps, happended, Option.toList_some]

/-- **Operations on a stored log are safe.** Let a log with fewer than 2^32 real steps be read, and let an operation
be done to it.

- The last step is found at its place, and what is found as the last real one is the last step that is no draft.
- Done to the list of its steps, the operation never looks at a place where no step is and never counts on from the
  greatest number. It comes to what it comes to on the history, and leaves the steps of the history after it behind.
- These are a log again, also if the operation failed.
- A step that was added stands right after the real steps that were there, and their number is its own. -/
theorem operations_safe {attemptId : String} {steps : List Step} {history : History}
    (hread : ofSteps attemptId steps = .ok history) (hroom : (AttemptLog.realSteps steps).length < 2 ^ 32)
    (operation : Operation) :
    (∃ last real, (Journal.mk attemptId steps).last? = some last ∧ steps.getLast? = some last ∧
        (Journal.mk attemptId steps).lastReal? = some real ∧ (AttemptLog.realSteps steps).getLast? = some real) ∧
      (Journal.act operation.stamp operation.action).on ⟨attemptId, steps⟩ =
        some ((history.act operation.stamp operation.action).map (·.change),
          ⟨attemptId, (history.perform operation).2.steps⟩) ∧
      ofSteps attemptId (history.perform operation).2.steps = .ok (history.perform operation).2 ∧
      ∀ decision step, history.act operation.stamp operation.action = .ok decision →
        decision.change.appended = some step →
        decision.history.steps = AttemptLog.realSteps steps ++ [step] ∧
          step.number.toNat = (AttemptLog.realSteps steps).length := by
  have hagain := ofSteps_perform hread hroom operation
  obtain ⟨hlog, rfl, rfl, hmarked⟩ := ofSteps_eq_ok hread
  rw [hmarked.realSteps_steps] at hroom ⊢
  have hnumbered : Numbered history.realSteps := (hlog.realSteps hmarked).numbered
  refine ⟨⟨history.last, history.current, last?_journal history, getLast?_steps history, lastReal?_journal hmarked,
    getLast?_realSteps history⟩, ?_, hagain, ?_⟩
  · have hafter : (history.perform operation).2.journal = ⟨history.attemptId, (history.perform operation).2.steps⟩ := by
      rw [journal, (perform_becomes history operation).attemptId_eq]
    rw [← hafter]
    exact act_on_of_canCount hmarked (canCount_of_numbered hnumbered hroom) operation
  · intro decision step hact happended
    exact added_last hnumbered hroom hact happended

/-- a step of the caller's choice takes the place and the number of a draft -/
theorem operations_safe_drafted :
    ofSteps "attempt" drafted.steps = .ok drafted ∧ (AttemptLog.realSteps drafted.steps).length < 2 ^ 32 ∧
      drafted.steps.map (fun step => (step.id, step.number)) = [("first", 0), ("draft", 1)] ∧
      ∃ decision step, drafted.act ⟨"second", .year2024⟩ (.record Keyed.empty .complete) = .ok decision ∧
        (Journal.act ⟨"second", .year2024⟩ (.record Keyed.empty .complete)).on ⟨"attempt", drafted.steps⟩ =
          some (.ok ⟨.appended, some "draft", some step⟩, ⟨"attempt", decision.history.steps⟩) ∧
        decision.history.steps.map (fun step => (step.id, step.number)) = [("first", 0), ("second", 1)] ∧
        step.number.toNat = (AttemptLog.realSteps drafted.steps).length ∧
        ofSteps "attempt" decision.history.steps = .ok decision.history := by
  have hread : ofSteps "attempt" drafted.steps = .ok drafted := rfl
  have hroom : (AttemptLog.realSteps drafted.steps).length < 2 ^ 32 := by decide
  obtain ⟨-, hon, hagain, hadded⟩ :=
    operations_safe hread hroom ⟨⟨"second", .year2024⟩, .record Keyed.empty .complete⟩
  exact ⟨hread, hroom, by decide, _, _, rfl, hon, by decide, (hadded _ _ rfl rfl).2, hagain⟩

end History

end AttemptLog
