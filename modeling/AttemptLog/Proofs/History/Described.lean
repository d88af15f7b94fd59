import AttemptLog.Proofs.History.Journal
/-!
What a change tells about an operation.

An operation is told in three ways: by the outcome of its change, by the step that the change takes away and the step
that it adds, and by the log after it. `Way` lists what an operation can do, each with the operations that do it, and
`Described` says how the three go together. `changes_described` says that they do so for every operation that goes
through, and which operations fail: those of learners, on a log that a real step has closed. An operation that fails
leaves the log as it was.
-/
namespace AttemptLog

def Action.isVerdict : Action → Bool
  | .submit submission => submission.isVerdict
  | .record _ state => state.isVerdict

namespace History

/-- what an operation can do to a history, each with the operations that do it -/
inductive Way (history : History) : Operation → Decision → Prop where
  /-- a real step takes the place of the draft -/
  | push (stamp : Stamp) (action : Action) (response : Response) (state : State)
    (hreal : Operation.isDraft ⟨stamp, action⟩ = false) (hnew : action ≠ .submit (.save history.current.response)) :
    Way history ⟨stamp, action⟩ (history.push response state stamp)
  /-- a save repeats the last real step -/
  | discard (stamp : Stamp) : Way history ⟨stamp, .submit (.save history.current.response)⟩
    (history.dropDraft .discarded)
  /-- a draft repeats what stands last -/
  | keep (stamp : Stamp) (response : Response) :
    Way history ⟨stamp, .submit (.autosave response)⟩ ⟨⟨.unchanged, none, none⟩, history⟩
  /-- a draft goes back to the last real step -/
  | revert (stamp : Stamp) (draft : Step) (hdraft : history.draft = some draft) :
    Way history ⟨stamp, .submit (.autosave history.current.response)⟩ (history.dropDraft .reverted)
  /-- a draft is the first one after the last real step -/
  | draft (stamp : Stamp) (response : Response) (hdraft : history.draft = none) :
    Way history ⟨stamp, .submit (.autosave response)⟩
      ⟨⟨.appended, none, some (history.following response (.ofResponse response) true stamp)⟩,
        { history with draft := some (history.following response (.ofResponse response) true stamp) }⟩
  /-- a draft takes the place of another one -/
  | replace (stamp : Stamp) (response : Response) (draft : Step) (hdraft : history.draft = some draft)
    (hnew : draft.response ≠ response) :
    Way history ⟨stamp, .submit (.autosave response)⟩
      ⟨⟨.replaced, some draft.id, some (history.following response (.ofResponse response) true stamp)⟩,
        { history with draft := some (history.following response (.ofResponse response) true stamp) }⟩

theorem save_way (history : History) (stamp : Stamp) (response : Response) :
    Way history ⟨stamp, .submit (.save response)⟩ (history.save response stamp) := by
  unfold save
  split
  · next hsame =>
    subst hsame
    exact .discard stamp
  · next hnew =>
    refine .push stamp _ response _ rfl fun hsame => hnew ?_
    cases hsame
    rfl

theorem autosave_way (history : History) (stamp : Stamp) (response : Response) :
    Way history ⟨stamp, .submit (.autosave response)⟩ (history.autosave response stamp) := by
  unfold autosave
  cases hdraft : history.draft with
  | none =>
    simp only
    split
    · exact .keep stamp response
    · exact .draft stamp response hdraft
  | some draft =>
    simp only
    split
    · next hsame =>
      subst hsame
      exact .revert stamp draft hdraft
    · split
      · exact .keep stamp response
      · next hnew => exact .replace stamp response draft hdraft hnew

/-- **An operation that goes through goes one of these ways.** -/
theorem act_way {history : History} {operation : Operation} {decision : Decision}
    (h : history.act operation.stamp operation.action = .ok decision) : Way history operation decision := by
  obtain ⟨stamp, action⟩ := operation
  cases action with
  | record response state =>
    obtain ⟨-, rfl⟩ := record_eq_ok h
    exact .push stamp (.record response state) response state rfl nofun
  | submit submission =>
    cases submission with
    | append response =>
      obtain ⟨-, rfl⟩ := record_eq_ok h
      exact .push stamp (.submit (.append response)) response _ rfl nofun
    | finish response =>
      have hrecord : history.record response .finished stamp = .ok decision := h
      obtain ⟨-, rfl⟩ := record_eq_ok hrecord
      exact .push stamp (.submit (.finish response)) response _ rfl nofun
    | grade verdict response =>
      obtain ⟨-, rfl⟩ := record_eq_ok h
      exact .push stamp (.submit (.grade verdict response)) _ _ rfl nofun
    | save response =>
      obtain ⟨-, rfl⟩ := whenOpen_eq_ok h
      exact save_way history stamp response
    | autosave response =>
      obtain ⟨-, rfl⟩ := whenOpen_eq_ok h
      exact autosave_way history stamp response

/-- do the outcome of a change, the steps that it names and the log after it tell the same -/
structure Described (history : History) (operation : Operation) (decision : Decision) : Prop where
  /-- the log after it is the log before it with the change carried out at its end -/
  steps_eq : decision.history.steps =
    (if decision.change.removed.isSome then history.realSteps else history.steps) ++ decision.change.appended.toList
  size_eq : decision.history.size + decision.change.removed.toList.length =
    history.size + decision.change.appended.toList.length
  isEmpty_iff : decision.change.isEmpty = true ↔ decision.history.steps = history.steps
  removed_eq : decision.change.removed = none ∨ decision.change.removed = history.draft.map (·.id)
  /-- a real step that is added takes the place of the draft -/
  real : ∀ step, decision.change.appended = some step → step.isDraft = false →
    decision.change.outcome = .appended ∧ decision.change.removed = history.draft.map (·.id)
  appended_iff : decision.change.outcome = .appended ↔
    ∃ step, decision.change.appended = some step ∧ (step.isDraft = true → decision.change.removed = none)
  replaced_iff : decision.change.outcome = .replaced ↔
    decision.change.removed.isSome = true ∧ ∃ step, decision.change.appended = some step ∧ step.isDraft = true
  reverted_iff : decision.change.outcome = .reverted ↔
    operation.isDraft = true ∧ decision.change.removed.isSome = true ∧ decision.change.appended = none
  discarded_iff : decision.change.outcome = .discarded ↔ operation.action = .submit (.save history.current.response)
  discarded : decision.change.outcome = .discarded →
    decision.change.removed = history.draft.map (·.id) ∧ decision.change.appended = none
  unchanged_iff : decision.change.outcome = .unchanged ↔
    operation.isDraft = true ∧ decision.history.steps = history.steps

theorem realSteps_append_eq_steps {history : History} {last : Option Step} :
    history.realSteps ++ last.toList = history.steps ↔ last = history.draft := by
  rw [steps, List.append_cancel_left_eq]
  cases last <;> cases history.draft <;> simp

namespace Way

variable {history : History} {operation : Operation} {decision : Decision}

theorem steps_eq (h : Way history operation decision) :
    decision.history.steps =
      (if decision.change.removed.isSome then history.realSteps else history.steps) ++
        decision.change.appended.toList := by
  cases h with
  | push _ _ response state =>
    cases hdraft : history.draft <;> simp [History.push, steps, History.realSteps, hdraft]
  | discard stamp | revert stamp => cases hdraft : history.draft <;> simp [dropDraft, steps, History.realSteps, hdraft]
  | keep stamp response => simp
  | draft stamp response hdraft => simp [steps, History.realSteps, hdraft]
  | replace stamp response draft hdraft => simp [steps, History.realSteps]

theorem removed_eq (h : Way history operation decision) :
    decision.change.removed = none ∨ decision.change.removed = history.draft.map (·.id) := by
  cases h with
  | push | discard | revert => exact .inr rfl
  | keep | draft => exact .inl rfl
  | replace stamp response draft hdraft => exact .inr (by simp [hdraft])

theorem size_eq (h : Way history operation decision) :
    decision.history.size + decision.change.removed.toList.length =
      history.size + decision.change.appended.toList.length := by
  rw [size, size, h.steps_eq]
  rcases h.removed_eq with hremoved | hremoved
  · simp [hremoved]
  · rw [hremoved, steps]
    cases history.draft with
    | none => simp
    | some draft =>
      simp
      omega

/-- a change that leaves no draft behind puts what it adds right after the real steps -/
theorem steps_eq_of_removed (h : Way history operation decision)
    (hremoved : decision.change.removed = history.draft.map (·.id)) :
    decision.history.steps = history.realSteps ++ decision.change.appended.toList := by
  rw [h.steps_eq, hremoved, steps]
  cases history.draft <;> simp

/-- what changes a log changes its steps: a real step is not marked as a draft, and another draft has another
response -/
theorem isEmpty_iff (h : Way history operation decision) (hmarked : history.Marked) :
    decision.change.isEmpty = true ↔ decision.history.steps = history.steps := by
  have hsteps := h.steps_eq_of_removed
  cases h with
  | keep stamp response => simp [Change.isEmpty]
  | push stamp _ response state =>
    have hdraft : history.draft ≠ some (history.following response state false stamp) := by
      intro hsame
      have hmark := hmarked.draft _ hsame
      cases hmark
    rw [hsteps rfl, realSteps_append_eq_steps]
    simp [History.push, Change.isEmpty, hdraft.symm]
  | discard stamp | revert stamp =>
    rw [hsteps rfl, realSteps_append_eq_steps]
    simp [dropDraft, Change.isEmpty, @eq_comm _ none]
  | draft stamp response hdraft =>
    rw [hsteps (by simp [hdraft]), realSteps_append_eq_steps]
    simp [Change.isEmpty, hdraft]
  | replace stamp response draft hdraft hnew =>
    rw [hsteps (by simp [hdraft]), realSteps_append_eq_steps]
    simp only [Change.isEmpty, hdraft, Option.isNone_some, Bool.false_and, Bool.false_eq_true, false_iff,
      Option.some.injEq]
    intro hsame
    apply hnew
    rw [← hsame]
    rfl

theorem described (h : Way history operation decision) (hmarked : history.Marked) :
    Described history operation decision where
  steps_eq := h.steps_eq
  size_eq := h.size_eq
  isEmpty_iff := h.isEmpty_iff hmarked
  removed_eq := h.removed_eq
  real step hstep hreal := by
    cases h with
    | push => exact ⟨rfl, rfl⟩
    | draft | replace =>
      cases hstep
      cases hreal
    | _ => cases hstep
  appended_iff := by
    cases h with
    | push => simp [History.push, following]
    | discard | keep | revert => simp [dropDraft]
    | draft | replace => simp [following]
  replaced_iff := by
    cases h with
    | push => simp [History.push, following]
    | discard | keep | revert => simp [dropDraft]
    | draft | replace => simp [following]
  reverted_iff := by
    cases h with
    | push _ _ response state hreal => simp [History.push, hreal]
    | discard | keep => simp [dropDraft, Operation.isDraft, Submission.isDraft]
    | revert stamp draft hdraft => simp [dropDraft, Operation.isDraft, Submission.isDraft, hdraft]
    | draft | replace => simp
  discarded_iff := by
    cases h with
    | push _ _ response state hreal hnew => simp [History.push, hnew]
    | discard => simp [dropDraft]
    | keep | revert | draft | replace => simp [dropDraft]
  discarded hdiscarded := by
    cases h with
    | discard => exact ⟨rfl, rfl⟩
    | _ => cases hdiscarded
  unchanged_iff := by
    rw [← h.isEmpty_iff hmarked]
    cases h with
    | push _ _ response state hreal => simp [History.push, hreal]
    | discard | keep => simp [dropDraft, Change.isEmpty, Operation.isDraft, Submission.isDraft]
    | revert stamp draft hdraft => simp [dropDraft, Change.isEmpty, hdraft]
    | draft | replace => simp [Change.isEmpty]

end Way

/-! ## Operations that fail -/

/-- **An operation fails exactly if the history is closed and no verdict is recorded.** -/
theorem act_fails_iff {history : History} {stamp : Stamp} {action : Action} :
    (∃ failure, history.act stamp action = .error failure) ↔
      action.isVerdict = false ∧ history.isClosed = true := by
  cases action with
  | submit submission =>
    constructor
    · rintro ⟨failure, hfails⟩
      have hfails : history.submit stamp submission = .error failure := hfails
      refine ⟨?_, (submit_eq_error hfails).1⟩
      cases submission with
      | grade verdict response =>
        rw [submit_grade] at hfails
        cases hfails
      | _ => rfl
    · rintro ⟨hlearner, hclosed⟩
      exact ⟨_, submit_of_isClosed hclosed hlearner stamp⟩
  | record response state =>
    simp only [act, record, whenOpen, Action.isVerdict]
    cases state.isVerdict <;> cases history.isClosed <;> simp

theorem act_eq_error {history : History} {operation : Operation} {failure : Failure}
    (h : history.act operation.stamp operation.action = .error failure) :
    failure = .finished history.attemptId ∧ (history.perform operation).2 = history := by
  refine ⟨?_, by simp only [perform, h]⟩
  obtain ⟨stamp, action⟩ := operation
  cases action with
  | submit submission => exact (submit_eq_error h).2
  | record response state => exact (record_eq_error h).2

theorem isClosed_iff_state {history : History} :
    history.isClosed = true ↔ ∃ step ∈ history.realSteps, step.state = .finished ∨ step.state = .graded := by
  have hclosing : ∀ state : State, state.isClosing = true ↔ state = .finished ∨ state = .graded := by
    intro state
    cases state <;> simp [State.isClosing]
  simp [isClosed, hclosing]

/-- **What a change tells is what was done.** Let a stored log be read, and let an operation be done to it.

- Done to the list of its steps, the operation comes to what it comes to on the history, if it comes to anything, and
  leaves the steps of the history after it behind.
- It fails exactly if it records no verdict and a real step is finished or graded. It says then that the attempt is
  closed, and the log is as it was.
- If it goes through, then its outcome, the steps that its change names and the log after it tell the same. What
  counts as the draft is the last step of the log, if that is marked as one. -/
theorem changes_described {attemptId : String} {steps : List Step} {history : History}
    (hread : ofSteps attemptId steps = .ok history) (operation : Operation) :
    (∀ result after, (Journal.act operation.stamp operation.action).on ⟨attemptId, steps⟩ = some (result, after) →
        result = (history.act operation.stamp operation.action).map (·.change) ∧
          after = ⟨attemptId, (history.perform operation).2.steps⟩) ∧
      ((∃ failure, history.act operation.stamp operation.action = .error failure) ↔
        operation.action.isVerdict = false ∧
          ∃ step ∈ AttemptLog.realSteps steps, step.state = .finished ∨ step.state = .graded) ∧
      (∀ failure, history.act operation.stamp operation.action = .error failure →
        failure = .finished attemptId ∧ (history.perform operation).2 = history) ∧
      (history.steps = steps ∧ history.draft = steps.getLast?.filter fun step => step.isDraft) ∧
      ∀ decision, history.act operation.stamp operation.action = .ok decision →
        Described history operation decision := by
  obtain ⟨-, rfl, rfl, hmarked⟩ := ofSteps_eq_ok hread
  refine ⟨fun result after hon => ?_, ?_, fun failure hfails => act_eq_error hfails,
    ⟨rfl, (draft?_journal hmarked).symm⟩, fun decision hact => (act_way hact).described hmarked⟩
  · obtain ⟨hresult, hafter⟩ := eq_of_act_on hmarked hon
    refine ⟨hresult, ?_⟩
    rw [hafter, journal, (perform_becomes history operation).attemptId_eq]
  · rw [act_fails_iff, isClosed_iff_state, hmarked.realSteps_steps]

/-- a draft that takes the place of another one -/
theorem changes_described_replaced :
    ofSteps "attempt" drafted.steps = .ok drafted ∧
      ∃ operation decision, operation.action = .submit (.autosave (Keyed.empty.insert "answer" "42")) ∧
        drafted.act operation.stamp operation.action = .ok decision ∧
        decision.change.outcome = .replaced ∧ decision.change.removed = some "draft" ∧
        Described drafted operation decision := by
  have hread : ofSteps "attempt" drafted.steps = .ok drafted := rfl
  obtain ⟨-, -, -, -, hdescribed⟩ := changes_described hread
    ⟨⟨"second", .year2024⟩, .submit (.autosave (Keyed.empty.insert "answer" "42"))⟩
  exact ⟨hread, _, _, rfl, rfl, rfl, rfl, hdescribed _ rfl⟩

end History

end AttemptLog
