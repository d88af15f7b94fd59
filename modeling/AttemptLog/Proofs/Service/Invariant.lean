import AttemptLog.Proofs.Service.Phase
/-!
Properties of stored steps that every submission keeps.

If a property holds of the first step of an attempt, and every effect of a submission keeps it, then it holds of the
steps of every attempt after every schedule (`after_keeps`).
-/
namespace AttemptLog

/-- does the first step of an attempt have a property, and does every submission keep it -/
structure KeptByEffects (property : List Step → Prop) : Prop where
  start : ∀ id stamp, property (History.start id stamp).steps
  effect : ∀ (history : History) stamp decision, history.Marked → History.Effect history stamp decision →
    property history.steps → property decision.history.steps

/-- does a property hold of the steps of every attempt -/
def Store.All (store : Store) (property : List Step → Prop) : Prop :=
  ∀ id steps, store.steps.get? id = some steps → property steps

namespace Traffic

variable {property : List Step → Prop}

theorem property_of_writes (hkept : KeptByEffects property) {store : Store} (hall : store.All property)
    {ticket : Ticket} {id : String} {attempt : Attempt} {steps : List Step}
    (hwrites : Ticket.Writes store ticket id attempt steps) :
    property steps := by
  cases hwrites with
  | start hnew => exact hkept.start _ _
  | @submit id submission expected issue view decision hview hdecide =>
    have heffect := History.submit_effect (View.decide_eq_ok hdecide).2
    exact hkept.effect _ _ _ (Store.view_steps hview).2.2 heffect (hall id _ (Store.get?_of_view hview))

theorem step_keeps (hkept : KeptByEffects property) {traffic : Traffic} (h : Inv traffic)
    (hall : traffic.state.All property) (move : Move Ticket) : (traffic.step move).state.All property := by
  cases move with
  | enter ticket => exact hall
  | advance place =>
    rcases World.step_advance_cases Store.answer Ticket.program traffic place with hsame | ⟨ticket, request, next, hjob⟩
    · rw [Traffic.step, hsame]
      exact hall
    · obtain ⟨rest, state, hanswered, hstep⟩ := answered_step h hjob
      rw [hstep]
      cases hanswered with
      | goesOn hphase => exact hall
      | refused hrequest hsteps hlast => exact hall
      | performs hcommit =>
        rcases ticket.perform_writes traffic.state with hsame | ⟨id, attempt, steps, hwrites, hstate⟩
        · simp only [hsame]
          exact hall
        · intro other list hget
          rw [hstate] at hget
          rcases Keyed.get?_insert_eq_some.1 hget with ⟨-, rfl⟩ | ⟨-, hget⟩
          · exact property_of_writes hkept hall hwrites
          · exact hall other list hget

/-- **What every submission keeps holds after every schedule.** -/
theorem after_keeps (hkept : KeptByEffects property) {moves : List (Move Ticket)} (hfresh : IsFresh moves) :
    (after moves).state.All property := by
  induction moves using List.reverseRecOn with
  | nil =>
    intro id steps hget
    cases hget
  | append_singleton moves move ih =>
    rw [after_concat]
    exact step_keeps hkept (after_inv hfresh.of_append) (ih hfresh.of_append) move

end Traffic

end AttemptLog
