import AttemptLog.Proofs.History.Effect
/-!
Two changes of one history get into each other's way.

Whatever is done to a history that has a draft takes the draft away, and whatever is done to one that has none adds
the step after the last real one (`act_claimsEnd`). So two changes that were decided on the same steps always have
something in common: both take the same step away, or both add a step with the same number (`changes_collide`).
-/
namespace AttemptLog.History

/-- does a change take away the draft of a history if there is one, and else add the step after the last real one -/
structure ClaimsEnd (history : History) (change : Change) : Prop where
  removed : change.removed = history.draft.map (·.id)
  appended : ∀ step, change.appended = some step →
    step.attemptId = history.attemptId ∧ step.number = history.current.number + 1
  adds : history.draft = none → change.appended.isSome = true

theorem push_claimsEnd (history : History) (response : Response) (state : State) (stamp : Stamp) :
    ClaimsEnd history (history.push response state stamp).change where
  removed := rfl
  appended step hstep := by
    cases hstep
    exact ⟨rfl, rfl⟩
  adds _ := rfl

/-- an effect that changes something claims the end -/
theorem Effect.claimsEnd {history : History} {stamp : Stamp} {decision : Decision} (h : Effect history stamp decision)
    (hchange : decision.change.isEmpty = false) : ClaimsEnd history decision.change := by
  cases h with
  | keep => simp [Change.isEmpty] at hchange
  | drop =>
    refine ⟨rfl, fun step hstep => ?_, fun hdraft => ?_⟩
    · cases hstep
    · simp [dropDraft, Change.isEmpty, hdraft] at hchange
  | draft =>
    refine ⟨rfl, fun step hstep => ?_, fun _ => rfl⟩
    cases hstep
    exact ⟨rfl, rfl⟩
  | push => exact push_claimsEnd history _ _ stamp

/-- **Whatever changes a history claims its end.** -/
theorem act_claimsEnd {history : History} {stamp : Stamp} {action : Action} {decision : Decision}
    (h : history.act stamp action = .ok decision) (hchange : decision.change.isEmpty = false) :
    ClaimsEnd history decision.change := by
  rcases act_effect h with heffect | ⟨response, state, rfl⟩
  · exact heffect.claimsEnd hchange
  · exact push_claimsEnd history response state stamp

/-- do two changes of an attempt that ends in some step get into each other's way: both take it away if it is a draft,
and else none takes anything away, and both add a step with the same number -/
def Collide (last : Step) (a b : Change) : Prop :=
  if last.isDraft = true then a.removed = some last.id ∧ b.removed = some last.id
  else a.removed = none ∧ b.removed = none ∧
    ∃ s t, a.appended = some s ∧ b.appended = some t ∧ s.attemptId = t.attemptId ∧ s.number = t.number

/-- **Two changes of one history get into each other's way.** -/
theorem ClaimsEnd.collide {history : History} (hmarked : history.Marked) {a b : Change} (ha : ClaimsEnd history a)
    (hb : ClaimsEnd history b) : Collide history.last a b := by
  cases hdraft : history.draft with
  | some draft =>
    have hlast : history.last = draft := by simp [last, hdraft]
    rw [Collide, hlast, if_pos (hmarked.draft draft hdraft), ha.removed, hb.removed, hdraft]
    exact ⟨rfl, rfl⟩
  | none =>
    have hlast : history.last = history.current := by simp [last, hdraft]
    have hreal : history.current.isDraft = false := hmarked.real _ (by simp [History.realSteps])
    obtain ⟨s, hs⟩ := Option.isSome_iff_exists.1 (ha.adds hdraft)
    obtain ⟨t, ht⟩ := Option.isSome_iff_exists.1 (hb.adds hdraft)
    obtain ⟨hsowner, hsnumber⟩ := ha.appended s hs
    obtain ⟨htowner, htnumber⟩ := hb.appended t ht
    rw [Collide, hlast, if_neg (by simp [hreal]), ha.removed, hb.removed, hdraft]
    exact ⟨rfl, rfl, s, t, hs, ht, hsowner.trans htowner.symm, hsnumber.trans htnumber.symm⟩

end AttemptLog.History
