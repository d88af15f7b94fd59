import AttemptLog.Proofs.Service.Phase
/-!
Real steps are permanent.

Between two moments of any schedule the real steps of an attempt stay where they are, with all that they hold, and
more may follow them; the record of the attempt stays as well. A step that is gone later was a draft, and stood at the
end (`real_steps_permanent`).
-/
namespace AttemptLog.Traffic

/-- what later traffic has kept of an attempt -/
structure Preserves (earlier later : Traffic) (id : String) : Prop where
  attempt : ∀ attempt, earlier.state.attempts.get? id = some attempt → later.state.attempts.get? id = some attempt
  real : realSteps (earlier.state.stepsOf id) <+: realSteps (later.state.stepsOf id)
  removed : ∀ step ∈ earlier.state.stepsOf id, step ∉ later.state.stepsOf id →
    step.isDraft = true ∧ (earlier.state.stepsOf id).getLast? = some step

theorem removed_of_continues {spent : String → Prop} {id : String} {before after : List Step}
    (hkept : WellKept id before) (hcontinues : Continues spent before after) {step : Step} (hmem : step ∈ before)
    (hgone : step ∉ after) :
    step.isDraft = true ∧ before.getLast? = some step := by
  have hdraft : step.isDraft = true := by
    by_contra hreal
    have hstays := hcontinues.real.subset (mem_realSteps.2 ⟨hmem, by simpa using hreal⟩)
    exact hgone (mem_realSteps.1 hstays).1
  exact ⟨hdraft, hkept.getLast?_of_isDraft hmem hdraft⟩

theorem Grows.preserves {earlier later : Traffic} (h : Grows earlier later) (hsane : Sane earlier) (id : String) :
    Preserves earlier later id := by
  refine ⟨fun attempt hget => h.attempts id attempt hget, ?_, fun step hmem hgone => ?_⟩
  · cases hbefore : earlier.state.steps.get? id with
    | none => simp [Store.stepsOf, hbefore, realSteps]
    | some before =>
      obtain ⟨after, hafter, hcontinues⟩ := h.steps id before hbefore
      rw [Store.stepsOf_of_get? hbefore, Store.stepsOf_of_get? hafter]
      exact hcontinues.real
  · cases hbefore : earlier.state.steps.get? id with
    | none => simp [Store.stepsOf, hbefore] at hmem
    | some before =>
      obtain ⟨after, hafter, hcontinues⟩ := h.steps id before hbefore
      rw [Store.stepsOf_of_get? hbefore] at hmem ⊢
      rw [Store.stepsOf_of_get? hafter] at hgone
      exact removed_of_continues (hsane.kept id before hbefore) hcontinues hmem hgone

/-- **Real steps are permanent.** Let calls come in and be answered in any order, beginning with an empty store and
with identities that are all different. Between any two moments the real steps of an attempt at the first one are a
front part of those at the second one, the record of the attempt is the same, and only a draft at the end was taken
away. -/
theorem real_steps_permanent {moves more : List (Move Ticket)} (hfresh : IsFresh (moves ++ more)) (id : String) :
    Preserves (after moves) (after (moves ++ more)) id :=
  (after_grows moves hfresh).preserves (after_inv hfresh.of_append).toSane id

def provisional : List (Move Ticket) :=
  [.enter ⟨.start "question" "user", ⟨"attempt", "first", .year2024⟩⟩, .advance 0,
    .enter ⟨.submit "attempt" (.autosave (Keyed.empty.insert "answer" "4")) none, ⟨"", "draft", .year2024⟩⟩,
    .advance 1, .advance 1, .advance 1]

/-- the response that is handed in takes the place of the draft, and a grader who has read the draft comes too late -/
def handedIn : List (Move Ticket) :=
  [.enter ⟨.submit "attempt" (.grade .invalid none) none, ⟨"", "verdict", .year2024⟩⟩, .advance 2, .advance 2,
    .enter ⟨.submit "attempt" (.save (Keyed.empty.insert "answer" "42")) none, ⟨"", "second", .year2024⟩⟩,
    .advance 3, .advance 3, .advance 3, .advance 2]

theorem real_steps_permanent_handed_in :
    IsFresh (provisional ++ handedIn) ∧ Preserves (after provisional) (after (provisional ++ handedIn)) "attempt" ∧
      ((after provisional).state.stepsOf "attempt").map (·.id) = ["first", "draft"] ∧
      ((after (provisional ++ handedIn)).state.stepsOf "attempt").map (·.id) = ["first", "second"] := by
  have hfresh : IsFresh (provisional ++ handedIn) := by decide
  exact ⟨hfresh, real_steps_permanent hfresh "attempt", by decide, by decide⟩

end AttemptLog.Traffic
