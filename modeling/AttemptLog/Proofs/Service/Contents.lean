import AttemptLog.Proofs.Service.Phase
/-!
What a store holds is what was handed in.

A program keeps a property of the state if each of its questions does, with what it knows from the answers before
(`Program.Keeps`); programs side by side keep it as well (`World.run_keeps`). A store `Holds` only responses and
records with some properties: the only responses that a call puts in are those that it hands in and, with a verdict,
one that it has read, so a call that hands in nothing else keeps this (`Ticket.keeps_holds`).
-/
namespace AttemptLog

/-! ## Properties that programs keep -/

section Keeping

variable {I : Interface} {σ κ α β : Type} {handler : Handler I σ} {inv : σ → Prop}

/-- does a program keep a property of the state, whatever others that keep it do in between -/
def Program.Keeps (handler : Handler I σ) (inv : σ → Prop) : Program I α → Prop
  | .done _ => True
  | .ask request next =>
    ∀ state, inv state → inv (handler request state).2 ∧ (next (handler request state).1).Keeps handler inv

/-- a program that only looks at the result of another one keeps what that one keeps -/
theorem Program.Keeps.bind_done {program : Program I β} (h : program.Keeps handler inv) (look : β → α) :
    (program.bind fun value => .done (look value)).Keeps handler inv := by
  induction program with
  | done value => trivial
  | ask request next ih => exact fun state hstate => ⟨(h state hstate).1, ih _ (h state hstate).2⟩

namespace World

variable {program : κ → Program I α}

/-- one move keeps what the programs keep, and what is left of them keeps it -/
theorem step_keeps (hprogram : ∀ ticket, (program ticket).Keeps handler inv) {world : World I σ κ α}
    (h : inv world.state ∧ ∀ job ∈ world.jobs, job.rest.Keeps handler inv) (move : Move κ) :
    inv (world.step handler program move).state ∧
      ∀ job ∈ (world.step handler program move).jobs, job.rest.Keeps handler inv := by
  obtain ⟨hstate, hjobs⟩ := h
  cases move with
  | enter ticket =>
    refine ⟨hstate, fun job hmem => ?_⟩
    rcases List.mem_append.1 hmem with hold | hnew
    · exact hjobs job hold
    · obtain rfl := List.mem_singleton.1 hnew
      exact hprogram ticket
  | advance place =>
    rcases world.step_advance_cases handler program place with hsame | ⟨ticket, request, next, hjob⟩
    · rw [hsame]
      exact ⟨hstate, hjobs⟩
    · obtain ⟨hnext, hrest⟩ := hjobs _ (List.mem_of_getElem? hjob) world.state hstate
      rw [step_ask hjob]
      refine ⟨hnext, fun job hmem => ?_⟩
      rcases List.mem_or_eq_of_mem_set hmem with hold | rfl
      · exact hjobs job hold
      · exact hrest

/-- **Programs side by side keep what each of them keeps.** -/
theorem run_keeps (hprogram : ∀ ticket, (program ticket).Keeps handler inv) {state : σ} (hstate : inv state)
    (moves : List (Move κ)) : inv ((start state).run handler program moves).state := by
  have hkeeps : inv ((start state).run handler program moves).state ∧
      ∀ job ∈ ((start state).run handler program moves).jobs, job.rest.Keeps handler inv := by
    induction moves using List.reverseRecOn with
    | nil => exact ⟨hstate, fun job hmem => nomatch hmem⟩
    | append_singleton moves move ih =>
      rw [run_concat]
      exact step_keeps hprogram ih move
  exact hkeeps.1

end World

end Keeping

/-! ## What is handed in -/

/-- does a store hold only responses and records with these properties -/
structure Store.Holds (fits : Response → Prop) (named : Attempt → Prop) (store : Store) : Prop where
  attempts : ∀ id attempt, store.attempts.get? id = some attempt → named attempt
  steps : ∀ id steps, store.steps.get? id = some steps → ∀ step ∈ steps, fits step.response

variable {fits : Response → Prop} {named : Attempt → Prop} {store : Store}

namespace Store

theorem holds_empty : empty.Holds fits named :=
  ⟨fun _ _ hget => by simp [empty] at hget, fun _ _ hget => by simp [empty] at hget⟩

theorem Holds.stepsOf (h : store.Holds fits named) (id : String) : ∀ step ∈ store.stepsOf id, fits step.response := by
  cases hsteps : store.steps.get? id with
  | none => simp [Store.stepsOf, hsteps]
  | some steps =>
    rw [stepsOf_of_get? hsteps]
    exact h.steps id steps hsteps

theorem mem_of_removeStep? {id : String} {steps rest : List Step} (h : removeStep? id steps = some rest) {step : Step}
    (hmem : step ∈ rest) : step ∈ steps := by
  induction steps generalizing rest with
  | nil => cases h
  | cons first others ih =>
    unfold removeStep? at h
    split at h
    · cases h
      exact List.mem_cons_of_mem _ hmem
    · obtain ⟨left, hleft, rfl⟩ := Option.map_eq_some_iff.1 h
      rcases List.mem_cons.1 hmem with rfl | hmem
      · exact List.mem_cons_self
      · exact List.mem_cons_of_mem _ (ih hleft hmem)

theorem mem_apply {change : Change} {before after : List Step} (h : change.apply before = .ok after) {step : Step}
    (hmem : step ∈ after) : step ∈ before ∨ change.appended = some step := by
  unfold Change.apply at h
  split at h
  · cases h
    exact (List.mem_append.1 hmem).imp_right Option.mem_toList.1
  · next id hremoved =>
    split at h
    · cases h
    · next rest hrest =>
      cases h
      exact (List.mem_append.1 hmem).imp (mem_of_removeStep? hrest) Option.mem_toList.1

theorem Holds.create (h : store.Holds fits named) {attempt : Attempt} {first : Step} (hnamed : named attempt)
    (hfits : fits first.response) : (answer (.create attempt first) store).2.Holds fits named := by
  simp only [answer, Store.create]
  split
  · exact h
  · refine ⟨fun id found hget => ?_, fun id steps hget => ?_⟩
    · rcases Keyed.get?_insert_eq_some.1 hget with ⟨-, rfl⟩ | ⟨-, hget⟩
      · exact hnamed
      · exact h.attempts id found hget
    · rcases Keyed.get?_insert_eq_some.1 hget with ⟨-, rfl⟩ | ⟨-, hget⟩
      · intro step hmem
        obtain rfl := List.mem_singleton.1 hmem
        exact hfits
      · exact h.steps id steps hget

theorem Holds.commit (h : store.Holds fits named) {id expected : String} {change : Change}
    (hfits : ∀ step, change.appended = some step → fits step.response) :
    (answer (.commit id expected change) store).2.Holds fits named := by
  simp only [answer]
  cases hcommit : store.commit id expected change with
  | error failure => exact h
  | ok next =>
    obtain ⟨before, after, hbefore, -, happly, rfl⟩ := commit_eq_ok hcommit
    refine ⟨h.attempts, fun other steps hget => ?_⟩
    rcases Keyed.get?_insert_eq_some.1 hget with ⟨-, rfl⟩ | ⟨-, hget⟩
    · intro step hmem
      rcases mem_apply happly hmem with hold | hnew
      · exact h.steps id before hbefore step hold
      · exact hfits step hnew
    · exact h.steps other steps hget

end Store

/-- a step that a decision adds fits if the current step does and all that is handed in -/
theorem fits_of_decide {view : View} {submission : Submission} {expected : Option String} {stamp : Stamp}
    {decision : Decision} (hdecide : view.decide submission expected stamp = .ok decision)
    (hoffers : ∀ response, submission.response? = some response → fits response)
    (hcurrent : fits view.history.current.response) {step : Step} (happended : decision.change.appended = some step) :
    fits step.response := by
  rcases History.submit_response (View.decide_eq_ok hdecide).2 happended with hhanded | hcarried
  · exact hoffers _ hhanded
  · rw [hcarried]
    exact hcurrent

/-- what a call does once an attempt was read keeps what a store holds, if the current step that was read fits -/
theorem conclude_keeps {call : Call} {issue : Issue} (hoffers : Ticket.Offers fits ⟨call, issue⟩)
    {viewed : Except Failure View} (hviewed : ∀ view, viewed = .ok view → fits view.history.current.response) :
    (call.conclude issue viewed).Keeps Store.answer (Store.Holds fits named) := by
  cases call with
  | submit id submission expected =>
    cases viewed with
    | error failure => trivial
    | ok view =>
      simp only [Call.conclude]
      split
      · trivial
      · next decision hdecide =>
        split
        · trivial
        · have hfits : ∀ step, decision.change.appended = some step → fits step.response := fun step happended =>
            fits_of_decide hdecide (hoffers id submission expected rfl) (hviewed view rfl) happended
          refine fun store hstore => ⟨hstore.commit hfits, ?_⟩
          cases (Store.answer (.commit id view.history.last.id decision.change) store).1 <;> trivial
  | _ => trivial

theorem fits_current {id : String} {steps : List Step} {history : History} (h : History.ofSteps id steps = .ok history)
    (hsteps : ∀ step ∈ steps, fits step.response) : fits history.current.response := by
  obtain ⟨-, -, rfl, -⟩ := History.ofSteps_eq_ok h
  exact hsteps _ (by simp [History.steps, History.realSteps])

/-- a call that looks an attempt up keeps what a store holds, if it does so afterwards -/
theorem afterFind_keeps {id : String} {go : Except Failure View → Program storeInterface (Report Answer)}
    (hgo : ∀ viewed, (∀ view, viewed = .ok view → fits view.history.current.response) →
      (go viewed).Keeps Store.answer (Store.Holds fits named)) (found : Except Failure (Option Attempt)) :
    (afterFind id go found).Keeps Store.answer (Store.Holds fits named) := by
  have hfailed : ∀ failure, (go (.error failure)).Keeps Store.answer (Store.Holds fits named) :=
    fun failure => hgo _ fun view hview => nomatch hview
  cases found with
  | error failure => exact hfailed failure
  | ok found =>
    cases found with
    | none => exact hfailed _
    | some attempt =>
      refine fun store hstore => ⟨hstore, hgo _ fun view hview => ?_⟩
      cases hhistory : History.ofSteps id (store.stepsOf id) with
      | error failure =>
        rw [hhistory] at hview
        cases hview
      | ok history =>
        rw [hhistory] at hview
        cases hview
        exact fits_current hhistory (hstore.stepsOf id)

/-- **A call keeps what a store holds**, if all that it hands in fits: its response and the record of an attempt that it
begins. A response that a verdict takes over is one that the store held before. -/
theorem Ticket.keeps_holds {ticket : Ticket} (hblank : fits Keyed.empty) (hoffers : ticket.Offers fits)
    (hbegins : ∀ questionId userId, ticket.call = .start questionId userId →
      named (ticket.issue.newView questionId userId).attempt) :
    ticket.program.Keeps Store.answer (Store.Holds fits named) := by
  rcases ticket.program_cases with ⟨questionId, userId, hcall, hprogram⟩ | ⟨id, htarget, hprogram⟩
  · rw [hprogram]
    refine fun store hstore => ⟨hstore.create (hbegins questionId userId hcall) hblank, ?_⟩
    cases (Store.answer (.create (ticket.issue.newView questionId userId).attempt
      (ticket.issue.newView questionId userId).history.current) store).1 <;> trivial
  · rw [hprogram]
    exact fun store hstore => ⟨hstore, afterFind_keeps (fun viewed hviewed => conclude_keeps hoffers hviewed) _⟩

end AttemptLog
