import AttemptLog.Proofs.History.Reread
import AttemptLog.Proofs.Service.Phase
/-!
What a store carries out is what was decided.

An operation takes the draft away from the end of a history. A store is told the identity of the draft, and takes away
the first step that has it. So the change always applies to the steps that it was decided on, and it leads to the
steps that were decided on exactly if it takes nothing away or no real step has the identity of the draft
(`act_apply`). Reading a log does not look at identities, and so a log can be read whose changes do not lead there
(`decision_lost_clashing`).
-/
namespace AttemptLog

theorem Change.apply_of_isEmpty {change : Change} (h : change.isEmpty = true) (steps : List Step) :
    change.apply steps = .ok steps := by
  obtain ⟨hremoved, happended⟩ : change.removed = none ∧ change.appended = none := by simpa [Change.isEmpty] using h
  simp [Change.apply, hremoved, happended]

namespace History

variable {history : History} {stamp : Stamp} {action : Action} {decision : Decision}

/-- if a real step has the identity of the draft, it is taken away and the draft stays -/
theorem apply_of_clash {draft step : Step} (hdraft : history.draft = some draft) (hmem : step ∈ history.realSteps)
    (hid : step.id = draft.id) {change : Change} (hremoved : change.removed = some draft.id) :
    ∃ rest, change.apply history.steps = .ok (rest ++ [draft] ++ change.appended.toList) := by
  obtain ⟨rest, hrest⟩ := exists_removeStep?_append hmem hid draft
  refine ⟨rest, ?_⟩
  rw [Change.apply, hremoved, steps, hdraft, Option.toList_some]
  simp only [hrest]

/-- **A change applies to the steps that it was decided on**, and leads to those that were decided on exactly if it
takes nothing away or no real step has the identity of the draft. -/
theorem act_apply (hmarked : history.Marked) (hact : history.act stamp action = .ok decision) :
    ∃ after, decision.change.apply history.steps = .ok after ∧
      (after = decision.history.steps ↔ decision.change.removed = none ∨ history.DraftApart) := by
  have hends := act_steps_eq hact
  by_cases happart : decision.change.removed = none ∨ history.DraftApart
  · exact ⟨_, apply_of_draftApart hends happart, iff_of_true rfl happart⟩
  · obtain ⟨htakes, hclash⟩ := not_or.1 happart
    obtain ⟨hremoved, hsteps⟩ := hends.resolve_left fun hkept => htakes hkept.1
    obtain ⟨draft, hdraft, step, hmem, hid⟩ :
        ∃ draft ∈ history.draft, ∃ step ∈ history.realSteps, step.id = draft.id := by
      simpa [DraftApart] using hclash
    have hremoved' : decision.change.removed = some draft.id := by rw [hremoved, hdraft, Option.map_some]
    obtain ⟨rest, hafter⟩ := apply_of_clash hdraft hmem hid hremoved'
    refine ⟨_, hafter, iff_of_false ?_ happart⟩
    -- the draft would be one of the real steps, and these are not marked as drafts
    intro hsame
    rw [hsteps, List.append_cancel_right_eq] at hsame
    have hstays : draft ∈ history.realSteps := hsame ▸ List.mem_append_right rest (List.mem_singleton_self draft)
    have hreal := hmarked.real draft hstays
    rw [hmarked.draft draft hdraft] at hreal
    cases hreal

end History

namespace Store

variable {store : Store} {id : String} {history : History} {attempt : Attempt}

theorem stepsOf_keep (store : Store) (id : String) (history : History) :
    (store.keep id history).stepsOf id = history.steps := by
  simp [stepsOf, keep, Keyed.get?_insert]

theorem view_keep (hattempt : store.attempts.get? id = some attempt)
    (hagain : History.ofSteps id history.steps = .ok history) :
    (store.keep id history).view id = .ok ⟨attempt, history⟩ := by
  have hkept : (store.keep id history).attempts.get? id = some attempt := hattempt
  rw [view_of_get? hkept, stepsOf_keep, hagain]
  rfl

theorem run_render {view : View} (hview : store.view id = .ok view) (issue : Issue) :
    ((Call.render id).program issue).run answer store = (⟨.ok (.view view), []⟩, store) := by
  rw [Call.run_program rfl, hview]
  rfl

/-- **A submission that was decided on goes through**: its change applies to what is stored, and is carried out. -/
theorem run_submit_of_decide {view : View} (hview : store.view id = .ok view) {submission : Submission}
    {expected : Option String} {issue : Issue} {decision : Decision}
    (hdecide : view.decide submission expected issue.stamp = .ok decision) :
    ∃ after, decision.change.apply view.history.steps = .ok after ∧
      ((Call.submit id submission expected).program issue).run answer store =
        (submission.accepted decision, { store with steps := store.steps.insert id after }) := by
  obtain ⟨-, -, hmarked⟩ := view_steps hview
  have hact : view.history.act issue.stamp (.submit submission) = .ok decision := (View.decide_eq_ok hdecide).2
  obtain ⟨after, happly, -⟩ := History.act_apply hmarked hact
  refine ⟨after, happly, ?_⟩
  rw [Call.run_program rfl, hview]
  simp only [Call.conclude, hdecide]
  cases hempty : decision.change.isEmpty with
  | true =>
    rw [Change.apply_of_isEmpty hempty, Except.ok.injEq] at happly
    subst happly
    simp only [ite_true, Program.run, Keyed.insert_of_get? (get?_of_view hview)]
  | false =>
    have hanswer := answer_commit_of_apply (get?_of_view hview) happly
    rw [lastId_steps] at hanswer
    simp only [Bool.false_eq_true, ite_false, Program.run, hanswer, afterCommit]

/-- **A submission that was decided on is kept**, and the report tells of the decision. -/
theorem run_submit {steps : List Step} (hstored : store.steps.get? id = some steps)
    (hread : History.ofSteps id steps = .ok history) (hattempt : store.attempts.get? id = some attempt)
    {submission : Submission} {expected : Option String} {issue : Issue} {decision : Decision}
    (hseen : ∀ seen, expected = some seen → seen = history.last.id)
    (hsubmit : history.submit issue.stamp submission = .ok decision)
    (happart : decision.change.removed = none ∨ history.DraftApart) :
    ((Call.submit id submission expected).program issue).run answer store =
      (submission.accepted decision, store.keep id decision.history) := by
  have hact : history.act issue.stamp (.submit submission) = .ok decision := hsubmit
  have hview : store.view id = .ok ⟨attempt, history⟩ := by
    rw [view_of_get? hattempt, stepsOf_of_get? hstored, hread]
    rfl
  have hfilter : (expected.filter fun seen => seen != history.last.id) = none := by
    cases expected with
    | none => rfl
    | some seen => simp [hseen seen rfl]
  have hdecide : View.decide ⟨attempt, history⟩ submission expected issue.stamp = .ok decision := by
    rw [View.decide, hfilter]
    exact hsubmit
  obtain ⟨after, happly, hrun⟩ := run_submit_of_decide hview hdecide
  rw [History.apply_of_draftApart (History.act_steps_eq hact) happart, Except.ok.injEq] at happly
  subst happly
  exact hrun

end Store

namespace History

variable {history : History} {stamp : Stamp} {action : Action} {decision : Decision}

/-- **What is stored is what was decided.** Let a log be stored for an attempt and be read, let it have fewer than
2^32 real steps, and let an operation on it go through.

- The store carries the change out if it is handed in with the last step of the log. The steps that are loaded after
  that are those that were decided on exactly if the change takes nothing away or no real step has the identity of the
  draft.
- If they are, and there is a record of the attempt, then it is shown with the history that was decided on. And if the
  operation is a submission, the service comes to the same store when it does it for a client who saw the last step or
  does not say what it saw, and its receipt has the outcome, the number of steps and the last step that are shown. -/
theorem change_reproduces_decision {store : Store} {id : String} {steps : List Step}
    (hstored : store.steps.get? id = some steps) (hread : ofSteps id steps = .ok history)
    (hroom : (AttemptLog.realSteps steps).length < 2 ^ 32) (hact : history.act stamp action = .ok decision) :
    ∃ next, Store.answer (.commit id (Store.lastId steps) decision.change) store = (.ok (), next) ∧
      (Store.answer (.load id) next = (.ok decision.history.steps, next) ↔
        decision.change.removed = none ∨ history.DraftApart) ∧
      (decision.change.removed = none ∨ history.DraftApart →
        ∀ attempt, store.attempts.get? id = some attempt →
          (∀ later, ((Call.render id).program later).run Store.answer next =
            (⟨.ok (.view ⟨attempt, decision.history⟩), []⟩, next)) ∧
          ∀ submission expected issue, action = .submit submission → stamp = issue.stamp →
            (∀ seen, expected = some seen → seen = history.last.id) →
            ((Call.submit id submission expected).program issue).run Store.answer store =
              (⟨.ok (.receipt ⟨decision.change.outcome, decision.history.size, decision.history.last⟩),
                Service.countsOf submission decision.change⟩, next)) := by
  obtain ⟨-, -, hsteps, hmarked⟩ := ofSteps_eq_ok hread
  obtain ⟨after, happly, hiff⟩ := act_apply hmarked hact
  rw [hsteps] at happly
  have hload : Store.answer (.load id) { store with steps := store.steps.insert id after } =
      (.ok after, { store with steps := store.steps.insert id after }) := by
    simp [Store.answer, Store.stepsOf, Keyed.get?_insert]
  refine ⟨_, Store.answer_commit_of_apply hstored happly, ?_, ?_⟩
  · rw [← hiff, hload]
    constructor
    · intro hsame
      exact Except.ok.inj (congrArg Prod.fst hsame)
    · rintro rfl
      rfl
  · intro happart attempt hattempt
    obtain rfl := hiff.2 happart
    have hperform : (history.perform ⟨stamp, action⟩).2 = decision.history := by simp only [perform, hact]
    have hagain := ofSteps_perform hread hroom ⟨stamp, action⟩
    rw [hperform] at hagain
    constructor
    · exact Store.run_render (Store.view_keep hattempt hagain)
    · rintro submission expected issue rfl rfl hseen
      exact Store.run_submit hstored hread hattempt hseen hact happart

/-- the store that has one attempt with this history -/
def stored (history : History) : Store :=
  ⟨Keyed.empty.insert history.attemptId ⟨history.attemptId, "question", "user", .year2024⟩,
    Keyed.empty.insert history.attemptId history.steps⟩

/-- a log whose real steps have one identity, with a draft that has its own -/
def repeated : History where
  attemptId := "attempt"
  earlier := [⟨"same", "attempt", 0, .todo, Keyed.empty, .year2024, false⟩]
  current := ⟨"same", "attempt", 1, .complete, Keyed.empty.insert "answer" "42", .year2024, false⟩
  draft := some ⟨"draft", "attempt", 2, .todo, Keyed.empty.insert "answer" " ", .year2024, true⟩

/-- a submission takes the place of the draft in the store too, although the steps before it have one identity -/
theorem change_reproduces_decision_repeated :
    ofSteps "attempt" repeated.steps = .ok repeated ∧ repeated.DraftApart ∧
      (AttemptLog.realSteps repeated.steps).length < 2 ^ 32 ∧
      ∃ decision next, repeated.act ⟨"third", .year2024⟩ (.submit (.append Keyed.empty)) = .ok decision ∧
        decision.change.removed = some "draft" ∧
        Store.answer (.commit "attempt" "draft" decision.change) repeated.stored = (.ok (), next) ∧
        Store.answer (.load "attempt") next = (.ok decision.history.steps, next) ∧
        decision.history.steps.map (fun step => (step.id, step.number)) = [("same", 0), ("same", 1), ("third", 2)] ∧
        ((Call.submit "attempt" (.append Keyed.empty) none).program ⟨"unused", "third", .year2024⟩).run Store.answer
            repeated.stored =
          (⟨.ok (.receipt ⟨.appended, 3, decision.history.last⟩), [.recorded false]⟩, next) ∧
        ((Call.render "attempt").program ⟨"unused", "unused", .year2024⟩).run Store.answer next =
          (⟨.ok (.view ⟨⟨"attempt", "question", "user", .year2024⟩, decision.history⟩), []⟩, next) := by
  have hstored : repeated.stored.steps.get? "attempt" = some repeated.steps := rfl
  have hread : ofSteps "attempt" repeated.steps = .ok repeated := rfl
  have hroom : (AttemptLog.realSteps repeated.steps).length < 2 ^ 32 := by decide
  have happart : repeated.DraftApart := by simp [DraftApart, repeated, History.realSteps]
  have hact : repeated.act ⟨"third", .year2024⟩ (.submit (.append Keyed.empty)) =
      .ok (repeated.push Keyed.empty .todo ⟨"third", .year2024⟩) := rfl
  obtain ⟨next, hcommit, hload, hshown⟩ := change_reproduces_decision hstored hread hroom hact
  have hseen : ∀ seen, none = some seen → seen = repeated.last.id := by
    intro seen hnone
    cases hnone
  obtain ⟨hrender, hsubmit⟩ := hshown (.inr happart) ⟨"attempt", "question", "user", .year2024⟩ rfl
  exact ⟨hread, happart, hroom, _, next, hact, rfl, hcommit, hload.2 (.inr happart), by decide,
    hsubmit _ none ⟨"unused", "third", .year2024⟩ rfl rfl hseen, hrender _⟩

/-- a log whose first step has the identity of the draft -/
def clashing : History :=
  { drafted with
    draft := some ⟨"first", "attempt", 1, .todo, Keyed.empty.insert "answer" " ", .year2024, true⟩ }

/-- **A draft with the identity of a real step stays in its place.** The log is read and the change is carried out,
but the steps that are loaded after that are not those that were decided on, and the attempt cannot be shown any
more. -/
theorem decision_lost_clashing :
    clashing.stored.steps.get? "attempt" = some clashing.steps ∧
      ofSteps "attempt" clashing.steps = .ok clashing ∧ (AttemptLog.realSteps clashing.steps).length < 2 ^ 32 ∧
      ∃ decision next, clashing.act ⟨"second", .year2024⟩ (.submit (.append Keyed.empty)) = .ok decision ∧
        Store.answer (.commit "attempt" (Store.lastId clashing.steps) decision.change) clashing.stored =
          (.ok (), next) ∧
        Store.answer (.load "attempt") next ≠ (.ok decision.history.steps, next) ∧
        (((Call.render "attempt").program ⟨"unused", "unused", .year2024⟩).run Store.answer next).1.result =
          .error (.corrupt "attempt" (.misnumbered "first" 1 0)) := by
  refine ⟨rfl, rfl, by decide, _, _, rfl, rfl, ?_, rfl⟩
  intro hload
  have hdrafts := congrArg (List.map Step.isDraft) (Except.ok.inj (congrArg Prod.fst hload))
  revert hdrafts
  decide

end History

end AttemptLog
