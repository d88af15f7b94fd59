import AttemptLog.Proofs.History.Version
/-!
What follows the step that closes an attempt.

The first real step in state finished or graded closes an attempt. From then on only verdicts are added: `Locked` says
what that means for the stored steps, and `Effect.verdictsFollow` that every submission keeps it. A verdict that does
not accept the response closes nothing by itself, but it does not open an attempt again either.
-/
namespace AttemptLog

def Step.closes (step : Step) : Bool := !step.isDraft && step.state.isClosing

def Step.judges (step : Step) : Bool := !step.isDraft && step.state.isVerdict

def Submission.isVerdict : Submission → Bool
  | .grade _ _ => true
  | _ => false

/-- is every step after one that closes the attempt a verdict -/
def VerdictsFollow (steps : List Step) : Prop :=
  steps.Pairwise fun earlier later => earlier.closes = true → later.judges = true

/-- is an attempt locked from the first step on that closes it -/
structure Locked (steps : List Step) : Prop where
  follow : VerdictsFollow steps
  noDraft : ∀ step ∈ steps, step.closes = true → ∀ other ∈ steps, other.isDraft = false
  finishedOnce : steps.countP (fun step => step.state = .finished) ≤ 1
  gradedLast : steps.Pairwise fun earlier later => earlier.state = .graded → later.state ≠ .finished

theorem Locked.nil : Locked [] := ⟨.nil, by simp, by simp, .nil⟩

namespace History

variable {history : History} {stamp : Stamp} {decision : Decision}

theorem isClosed_iff (hmarked : history.Marked) :
    history.isClosed = true ↔ ∃ step ∈ history.steps, step.closes = true := by
  simp only [isClosed, List.any_eq_true, Step.closes, Bool.and_eq_true, Bool.not_eq_true']
  constructor
  · rintro ⟨step, hmem, hcloses⟩
    exact ⟨step, List.mem_append_left _ hmem, hmarked.real step hmem, hcloses⟩
  · rintro ⟨step, hmem, hreal, hcloses⟩
    rw [← hmarked.realSteps_steps]
    exact ⟨step, mem_realSteps.2 ⟨hmem, hreal⟩, hcloses⟩

theorem isVerdict_ofResponse (response : Response) : (State.ofResponse response).isVerdict = false := by
  unfold State.ofResponse
  split <;> rfl

theorem isClosing_ofResponse (response : Response) : (State.ofResponse response).isClosing = false := by
  unfold State.ofResponse
  split <;> rfl

theorem submit_of_isClosed {history : History} (hclosed : history.isClosed = true) {submission : Submission}
    (hlearner : submission.isVerdict = false) (stamp : Stamp) :
    history.submit stamp submission = .error (.finished history.attemptId) := by
  cases submission with
  | append response => simp [submit, record, whenOpen, hclosed, isVerdict_ofResponse]
  | save response => simp [submit, whenOpen, hclosed]
  | finish response => simp [submit, record, whenOpen, hclosed, State.isVerdict]
  | grade verdict response => cases hlearner
  | autosave response => simp [submit, whenOpen, hclosed]

theorem submit_grade (history : History) (verdict : Verdict) (response : Option Response) (stamp : Stamp) :
    history.submit stamp (.grade verdict response) =
      .ok (history.push (response.getD history.current.response) verdict.state stamp) := by
  cases verdict <;> rfl

/-- only a closed history refuses a submission, and none refuses a verdict -/
theorem exists_submit {history : History} {submission : Submission}
    (htakes : ¬(submission.isVerdict = false ∧ history.isClosed = true)) (stamp : Stamp) :
    ∃ decision, history.submit stamp submission = .ok decision := by
  cases hsubmit : history.submit stamp submission with
  | ok decision => exact ⟨decision, rfl⟩
  | error failure =>
    obtain ⟨hclosed, -⟩ := submit_eq_error hsubmit
    cases submission with
    | grade verdict response =>
      rw [submit_grade] at hsubmit
      cases hsubmit
    | append response | save response | finish response | autosave response => exact absurd ⟨rfl, hclosed⟩ htakes

/-- what is added to a closed history is a verdict -/
theorem Effect.judges_of_isClosed (h : Effect history stamp decision) (hclosed : history.isClosed = true) {step : Step}
    (hstep : decision.change.appended = some step) : step.judges = true := by
  cases h with
  | keep => cases hstep
  | drop => cases hstep
  | draft outcome response hopen =>
    rw [hclosed] at hopen
    cases hopen
  | push response state hopen hstate =>
    rw [hclosed] at hopen
    cases hstep
    simpa [Step.judges, following] using hopen

/-- **After a step that closes the attempt only verdicts follow**, whatever is submitted. -/
theorem Effect.verdictsFollow (h : Effect history stamp decision) (hmarked : history.Marked)
    (hfollow : VerdictsFollow history.steps) : VerdictsFollow decision.history.steps := by
  rcases h.steps_eq with ⟨-, -, hhistory⟩ | ⟨-, hsteps⟩
  · rwa [hhistory]
  · rw [hsteps]
    refine List.pairwise_append.2 ⟨(List.pairwise_append.1 hfollow).1, ?_,
      fun earlier hearlier later hlater hcloses => ?_⟩
    · cases decision.change.appended <;> simp
    · refine h.judges_of_isClosed ?_ (Option.mem_toList.1 hlater)
      exact (isClosed_iff hmarked).2 ⟨earlier, List.mem_append_left _ hearlier, hcloses⟩

end History

/-- a step in state finished or graded closes the attempt, since no draft is in these states -/
theorem Step.IsClassified.closes {step : Step} (h : step.IsClassified) (hstate : step.state.isClosing = true) :
    step.closes = true := by
  have hreal : step.isDraft = false := by
    by_contra hdraft
    have hresponse := h (.inl (by simpa using hdraft))
    rw [hresponse, History.isClosing_ofResponse] at hstate
    cases hstate
  simp [Step.closes, hreal, hstate]

theorem countP_le_one {α : Type} {property : α → Bool} {list : List α}
    (h : list.Pairwise fun earlier later => property earlier = true → property later = false) :
    list.countP property ≤ 1 := by
  induction h with
  | nil => simp
  | @cons first rest hfirst hrest ih =>
    cases hproperty : property first with
    | false => simpa [hproperty] using ih
    | true =>
      have hnone : rest.countP property = 0 :=
        List.countP_eq_zero.2 fun later hmem => by simp [hfirst later hmem hproperty]
      simp [hproperty, hnone]

namespace WellKept

variable {attemptId : String} {steps : List Step}

/-- a step after one that is finished or graded is not finished -/
theorem not_finished_after (h : WellKept attemptId steps) {earlier later : Step} (hmem : earlier ∈ steps)
    (hjudges : earlier.closes = true → later.judges = true) (hstate : earlier.state.isClosing = true) :
    later.state ≠ .finished := by
  intro hfinished
  have hverdict := hjudges ((h.classified earlier hmem).closes hstate)
  simp [Step.judges, hfinished, State.isVerdict] at hverdict

/-- a draft would be the last step, and no step that closes the attempt is before it -/
theorem isDraft_of_closes (h : WellKept attemptId steps) (hfollow : VerdictsFollow steps) {step other : Step}
    (hmem : step ∈ steps) (hcloses : step.closes = true) (hother : other ∈ steps) : other.isDraft = false := by
  by_contra hdraft
  rw [Bool.not_eq_false] at hdraft
  obtain ⟨front, rfl⟩ := List.getLast?_eq_some_iff.1 (h.getLast?_of_isDraft hother hdraft)
  rcases List.mem_append.1 hmem with hfront | hsame
  · have hjudges := (List.pairwise_append.1 hfollow).2.2 step hfront other (List.mem_singleton_self _) hcloses
    simp [Step.judges, hdraft] at hjudges
  · obtain rfl := List.mem_singleton.1 hsame
    simp [Step.closes, hdraft] at hcloses

/-- **Steps that are kept well are locked** if only verdicts follow a step that closes the attempt. -/
theorem locked (h : WellKept attemptId steps) (hfollow : VerdictsFollow steps) : Locked steps where
  follow := hfollow
  noDraft _ hmem hcloses _ hother := h.isDraft_of_closes hfollow hmem hcloses hother
  finishedOnce := by
    refine countP_le_one (hfollow.imp_of_mem fun {earlier later} hmem _ hjudges hfinished => ?_)
    rw [decide_eq_true_eq] at hfinished
    simpa using h.not_finished_after hmem hjudges (by rw [hfinished]; rfl)
  gradedLast := hfollow.imp_of_mem fun {earlier later} hmem _ hjudges hgraded =>
    h.not_finished_after hmem hjudges (by rw [hgraded]; rfl)

end WellKept

end AttemptLog
