import AttemptLog.History
import Mathlib.Tactic
/-!
The stored form of a history.

`IsLog` says which lists of steps are the stored form of a history. `ofSteps` accepts exactly those
(`exists_ofSteps_iff`), and what it gives has the steps that it was given (`ofSteps_eq_ok`): the last one is the draft
if it is marked as one, and all others are real steps.
-/
namespace AttemptLog

def realSteps (steps : List Step) : List Step := steps.filter fun step => !step.isDraft

theorem mem_realSteps {steps : List Step} {step : Step} :
    step ∈ realSteps steps ↔ step ∈ steps ∧ step.isDraft = false := by
  simp [realSteps]

theorem realSteps_append (a b : List Step) : realSteps (a ++ b) = realSteps a ++ realSteps b := by
  simp [realSteps]

theorem realSteps_eq_self {steps : List Step} (h : ∀ step ∈ steps, step.isDraft = false) : realSteps steps = steps := by
  simpa [realSteps, List.filter_eq_self] using h

namespace History

/-- are the steps marked as what they are: the real ones as real, the draft as a draft -/
structure Marked (history : History) : Prop where
  real : ∀ step ∈ history.realSteps, step.isDraft = false
  draft : ∀ step ∈ history.draft, step.isDraft = true

theorem Marked.realSteps_steps {history : History} (h : history.Marked) :
    AttemptLog.realSteps history.steps = history.realSteps := by
  have hdraft : AttemptLog.realSteps history.draft.toList = [] := by
    simpa [AttemptLog.realSteps] using h.draft
  rw [steps, realSteps_append, realSteps_eq_self h.real, hdraft, List.append_nil]

theorem getLast?_realSteps (history : History) : history.realSteps.getLast? = some history.current := by
  simp [History.realSteps]

theorem steps_ne_nil (history : History) : history.steps ≠ [] := by
  simp [steps, realSteps]

theorem getLast?_steps (history : History) : history.steps.getLast? = some history.last := by
  cases hdraft : history.draft with
  | none => simp [steps, last, hdraft, getLast?_realSteps]
  | some draft => simp [steps, last, hdraft]

/-! ## Reading a stored history -/

theorem flawAt_eq_none_iff {attemptId : String} {place : Nat} {isLast : Bool} {step : Step} :
    flawAt attemptId place isLast step = none ↔
      step.attemptId = attemptId ∧ step.number.toNat = place ∧
        (step.isDraft = true → isLast = true ∧ 0 < place) := by
  unfold flawAt
  by_cases howner : step.attemptId = attemptId
  · by_cases hnumber : step.number.toNat = place
    · cases hdraft : step.isDraft
      · simp [howner, hnumber]
      · cases isLast <;> simp [howner, hnumber, Nat.pos_iff_ne_zero]
    · simp [howner, hnumber]
  · simp [howner]

theorem firstFlaw_cons (attemptId : String) (place : Nat) (step : Step) (rest : List Step) :
    firstFlaw attemptId place (step :: rest) =
      (flawAt attemptId place (decide (0 + 1 = (step :: rest).length)) step).or
        (firstFlaw attemptId (place + 1) rest) := by
  have hlast : rest.isEmpty = decide (0 + 1 = (step :: rest).length) := by
    cases rest <;> simp
  rw [firstFlaw, hlast]
  cases flawAt attemptId place (decide (0 + 1 = (step :: rest).length)) step <;> rfl

theorem firstFlaw_eq_none_iff {attemptId : String} {place : Nat} {steps : List Step} :
    firstFlaw attemptId place steps = none ↔
      ∀ i (h : i < steps.length), flawAt attemptId (place + i) (decide (i + 1 = steps.length)) steps[i] = none := by
  induction steps generalizing place with
  | nil => simp [firstFlaw]
  | cons step rest ih =>
    rw [firstFlaw_cons, Option.or_eq_none_iff, ih]
    constructor
    · rintro ⟨hfirst, hrest⟩ i hi
      cases i with
      | zero => exact hfirst
      | succ i => simpa [Nat.add_assoc, Nat.add_comm 1] using hrest i (Nat.lt_of_succ_lt_succ hi)
    · intro h
      refine ⟨h 0 (Nat.zero_lt_succ _), fun i hi => ?_⟩
      simpa [Nat.add_assoc, Nat.add_comm 1] using h (i + 1) (Nat.succ_lt_succ hi)

theorem firstFlaw_eq_none_iff_isLog {attemptId : String} {steps : List Step} (hne : steps ≠ []) :
    firstFlaw attemptId 0 steps = none ↔ IsLog attemptId steps := by
  simp only [firstFlaw_eq_none_iff, flawAt_eq_none_iff, Nat.zero_add, decide_eq_true_eq]
  constructor
  · intro h
    refine ⟨hne, fun step hmem => ?_, fun place hplace => (h place hplace).2.1, fun place hplace hdraft => ?_⟩
    · obtain ⟨i, hi, rfl⟩ := List.getElem_of_mem hmem
      exact (h i hi).1
    · exact ((h place hplace).2.2 hdraft).symm
  · intro h i hi
    exact ⟨h.owned _ (List.getElem_mem hi), h.numbered i hi, fun hdraft => (h.draftLast i hi hdraft).symm⟩

end History

instance (attemptId : String) (steps : List Step) : Decidable (IsLog attemptId steps) :=
  decidable_of_iff (∃ _ : steps ≠ [], History.firstFlaw attemptId 0 steps = none)
    ⟨fun ⟨hne, hflaw⟩ => (History.firstFlaw_eq_none_iff_isLog hne).1 hflaw,
      fun hlog => ⟨hlog.nonempty, (History.firstFlaw_eq_none_iff_isLog hlog.nonempty).2 hlog⟩⟩

theorem IsLog.isDraft_dropLast {attemptId : String} {steps : List Step} (h : IsLog attemptId steps) :
    ∀ step ∈ steps.dropLast, step.isDraft = false := by
  intro step hmem
  obtain ⟨i, hi, rfl⟩ := List.getElem_of_mem hmem
  rw [List.length_dropLast] at hi
  rw [List.getElem_dropLast]
  by_contra hdraft
  have hplace := h.draftLast i (by omega) (by simpa using hdraft)
  omega

theorem IsLog.isDraft_head {attemptId : String} {step : Step} (h : IsLog attemptId [step]) : step.isDraft = false := by
  by_contra hdraft
  have hplace := h.draftLast 0 (Nat.zero_lt_succ _) (by simpa using hdraft)
  omega

namespace History

/-- **What is read back has the steps that were stored.** -/
theorem ofSteps_eq_ok {attemptId : String} {steps : List Step} {history : History}
    (h : ofSteps attemptId steps = .ok history) :
    IsLog attemptId steps ∧ history.attemptId = attemptId ∧ history.steps = steps ∧ history.Marked := by
  unfold ofSteps at h
  split at h
  · cases h
  next hflaw =>
  split at h
  · cases h
  · next step hreverse =>
    obtain rfl : steps = [step] := by simpa using hreverse
    have hlog := (firstFlaw_eq_none_iff_isLog (by simp)).1 hflaw
    cases h
    refine ⟨hlog, rfl, by simp [History.steps, History.realSteps], ⟨?_, by simp⟩⟩
    intro s hs
    obtain rfl : s = step := by simpa [History.realSteps] using hs
    exact hlog.isDraft_head
  · next last before earlier hreverse =>
    obtain rfl : steps = earlier.reverse ++ [before, last] := by
      have := congrArg List.reverse hreverse
      simpa using this
    have hlog := (firstFlaw_eq_none_iff_isLog (by simp)).1 hflaw
    have hreal : ∀ step ∈ earlier.reverse ++ [before], step.isDraft = false := by
      intro step hmem
      refine hlog.isDraft_dropLast step ?_
      rw [show earlier.reverse ++ [before, last] = earlier.reverse ++ [before] ++ [last] by simp,
        List.dropLast_concat]
      exact hmem
    split at h
    · next hdraft =>
      cases h
      refine ⟨hlog, rfl, by simp [History.steps, History.realSteps], ⟨hreal, ?_⟩⟩
      simpa using hdraft
    · next hdraft =>
      cases h
      refine ⟨hlog, rfl, by simp [History.steps, History.realSteps], ⟨?_, by simp⟩⟩
      intro step hmem
      simp only [History.realSteps, List.reverse_cons, List.append_assoc, List.mem_append, List.mem_singleton] at hmem
      rcases hmem with hmem | rfl | rfl
      · exact hreal step (List.mem_append_left _ hmem)
      · exact hreal step (by simp)
      · simpa using hdraft

theorem ofSteps_eq_error {attemptId : String} {steps : List Step} {failure : Failure}
    (h : ofSteps attemptId steps = .error failure) : ∃ flaw, failure = .corrupt attemptId flaw := by
  unfold ofSteps at h
  split at h
  · next flaw hflaw =>
    cases h
    exact ⟨flaw, rfl⟩
  · split at h
    · cases h
      exact ⟨.noSteps, rfl⟩
    · cases h
    · split at h <;> cases h

/-- **Exactly the logs are read back.** -/
theorem exists_ofSteps_iff {attemptId : String} {steps : List Step} :
    (∃ history, ofSteps attemptId steps = .ok history) ↔ IsLog attemptId steps := by
  constructor
  · rintro ⟨history, h⟩
    exact (ofSteps_eq_ok h).1
  · intro h
    have hflaw := (firstFlaw_eq_none_iff_isLog h.nonempty).2 h
    unfold ofSteps
    rw [hflaw]
    cases hreverse : steps.reverse with
    | nil => exact absurd (by simpa using hreverse) h.nonempty
    | cons last rest =>
      cases rest with
      | nil => exact ⟨_, rfl⟩
      | cons before earlier =>
        by_cases hdraft : last.isDraft = true
        · exact ⟨_, if_pos hdraft⟩
        · exact ⟨_, if_neg hdraft⟩

end History

end AttemptLog
