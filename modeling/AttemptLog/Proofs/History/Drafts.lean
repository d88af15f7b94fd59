import AttemptLog.Proofs.History.Effect
/-!
Drafts leave no trace in the real steps.

Two runs of operations on a history are compared: one with all its drafts, and one in which the draft at the beginning
and any of the drafts handed in are left out. `History.bare` is what both have in common, and each operation does the
same to it, whatever the draft is (`perform_bare`, `perform_draft`). `drafts_leave_no_trace` says that both runs end
with the same real steps and that every operation that hands in no draft comes to the same in both.
-/
namespace AttemptLog

structure Operation where
  stamp : Stamp
  action : Action

def Operation.isDraft (operation : Operation) : Bool :=
  match operation.action with
  | .submit submission => submission.isDraft
  | .record _ _ => false

/-- is the second list the first one with some of the drafts left out -/
inductive LeavesOut : List Operation → List Operation → Prop where
  | nil : LeavesOut [] []
  | keep {full part : List Operation} (operation : Operation) (h : LeavesOut full part) :
    LeavesOut (operation :: full) (operation :: part)
  | skip {full part : List Operation} {operation : Operation} (hdraft : operation.isDraft = true)
    (h : LeavesOut full part) : LeavesOut (operation :: full) part

namespace History

/-- what an operation comes to, and the history after it; one that fails leaves the history as it is -/
def perform (history : History) (operation : Operation) : Except Failure Outcome × History :=
  match history.act operation.stamp operation.action with
  | .ok decision => (.ok decision.change.outcome, decision.history)
  | .error failure => (.error failure, history)

def run (history : History) : List Operation → List (Operation × Except Failure Outcome) × History
  | [] => ([], history)
  | operation :: rest =>
    let (result, next) := history.perform operation
    ((operation, result) :: (next.run rest).1, (next.run rest).2)

/-- what the operations came to that handed in no draft -/
def resultsOfReal (results : List (Operation × Except Failure Outcome)) : List (Operation × Except Failure Outcome) :=
  results.filter fun entry => !entry.1.isDraft

/-- the history without its draft -/
def bare (history : History) : History := { history with draft := none }

@[simp]
theorem realSteps_bare (history : History) : history.bare.realSteps = history.realSteps := rfl

@[simp]
theorem steps_bare (history : History) : history.bare.steps = history.realSteps := by
  simp [steps, bare, History.realSteps]

/-! ## The stored form -/

theorem Marked.bare {history : History} (h : history.Marked) : history.bare.Marked := ⟨h.real, by simp [History.bare]⟩

theorem Marked.eq_of_steps {a b : History} (ha : a.Marked) (hb : b.Marked) (hid : a.attemptId = b.attemptId)
    (hsteps : a.steps = b.steps) : a = b := by
  have hreal : a.realSteps = b.realSteps := by rw [← ha.realSteps_steps, ← hb.realSteps_steps, hsteps]
  obtain ⟨hearlier, hcurrent⟩ := List.append_inj' hreal rfl
  have hdraft : a.draft = b.draft := by
    rw [steps, steps, hreal, List.append_cancel_left_eq] at hsteps
    simpa using congrArg List.head? hsteps
  obtain ⟨aid, aearlier, acurrent, adraft⟩ := a
  obtain ⟨bid, bearlier, bcurrent, bdraft⟩ := b
  simp only [mk.injEq]
  exact ⟨hid, hearlier, List.singleton_inj.1 hcurrent, hdraft⟩

theorem ofSteps_steps {history : History} (hmarked : history.Marked) (hlog : IsLog history.attemptId history.steps) :
    ofSteps history.attemptId history.steps = .ok history := by
  obtain ⟨other, hread⟩ := exists_ofSteps_iff.2 hlog
  obtain ⟨-, hid, hsteps, hother⟩ := ofSteps_eq_ok hread
  rw [hread, hother.eq_of_steps hmarked hid hsteps]

end History

theorem IsLog.realSteps {attemptId : String} {history : History} (h : IsLog attemptId history.steps)
    (hmarked : history.Marked) : IsLog attemptId history.realSteps where
  nonempty := by simp [History.realSteps]
  owned step hmem := h.owned step (List.mem_append_left _ hmem)
  numbered place hplace := by
    have hnumber := h.numbered place (by rw [History.steps, List.length_append]; omega)
    simpa only [History.steps, List.getElem_append_left hplace] using hnumber
  draftLast place hplace hdraft := by
    rw [hmarked.real _ (List.getElem_mem hplace)] at hdraft
    cases hdraft

namespace History

theorem ofSteps_realSteps {attemptId : String} {steps : List Step} {history : History}
    (h : ofSteps attemptId steps = .ok history) :
    ofSteps attemptId (AttemptLog.realSteps steps) = .ok history.bare := by
  obtain ⟨hlog, rfl, rfl, hmarked⟩ := ofSteps_eq_ok h
  rw [hmarked.realSteps_steps, ← steps_bare]
  exact ofSteps_steps hmarked.bare (by rw [steps_bare]; exact hlog.realSteps hmarked)

/-! ## One operation -/

theorem perform_marked {history : History} (h : history.Marked) (operation : Operation) :
    (history.perform operation).2.Marked := by
  unfold perform
  cases hact : history.act operation.stamp operation.action with
  | error failure => exact h
  | ok decision =>
    rcases act_effect hact with heffect | ⟨response, state, rfl⟩
    · exact heffect.marked h
    · exact push_marked h response state operation.stamp

theorem perform_draft {history : History} {operation : Operation} (hdraft : operation.isDraft = true) :
    (history.perform operation).2.bare = history.bare := by
  obtain ⟨stamp, action⟩ := operation
  cases action with
  | record response state => cases hdraft
  | submit submission =>
    cases submission with
    | autosave response =>
      simp only [perform, act, submit, whenOpen]
      cases history.isClosed with
      | true => rfl
      | false =>
        simp only [autosave, Bool.false_eq_true, ite_false]
        cases history.draft with
        | none =>
          simp only
          split <;> rfl
        | some draft =>
          simp only
          split
          · rfl
          · split <;> rfl
    | _ => cases hdraft

theorem perform_record_bare (history : History) (stamp : Stamp) (response : Response) (state : State) :
    (history.perform ⟨stamp, .record response state⟩).1 = (history.bare.perform ⟨stamp, .record response state⟩).1 ∧
      (history.perform ⟨stamp, .record response state⟩).2.bare =
        (history.bare.perform ⟨stamp, .record response state⟩).2.bare := by
  have hclosed : history.bare.isClosed = history.isClosed := rfl
  simp only [perform, act, record, whenOpen, hclosed]
  cases state.isVerdict with
  | true => exact ⟨rfl, rfl⟩
  | false => cases history.isClosed <;> exact ⟨rfl, rfl⟩

/-- an operation that hands in no draft does not look at the draft -/
theorem perform_bare (history : History) {operation : Operation} (hreal : operation.isDraft = false) :
    (history.perform operation).1 = (history.bare.perform operation).1 ∧
      (history.perform operation).2.bare = (history.bare.perform operation).2.bare := by
  obtain ⟨stamp, action⟩ := operation
  cases action with
  | record response state => exact perform_record_bare history stamp response state
  | submit submission =>
    cases submission with
    | append response => exact perform_record_bare history stamp response (.ofResponse response)
    | finish response => exact perform_record_bare history stamp response .finished
    | grade verdict response =>
      exact perform_record_bare history stamp (response.getD history.current.response) verdict.state
    | autosave response => cases hreal
    | save response =>
      have hclosed : history.bare.isClosed = history.isClosed := rfl
      have hcurrent : history.bare.current = history.current := rfl
      simp only [perform, act, submit, whenOpen, save, hclosed, hcurrent]
      cases history.isClosed with
      | true => exact ⟨rfl, rfl⟩
      | false =>
        simp only [Bool.false_eq_true, ite_false]
        split <;> exact ⟨rfl, rfl⟩

/-! ## Runs -/

theorem run_marked {history : History} (h : history.Marked) (operations : List Operation) :
    (history.run operations).2.Marked := by
  induction operations generalizing history with
  | nil => exact h
  | cons operation rest ih => exact ih (perform_marked h operation)

/-- two runs of which the second leaves drafts out have the same in common at their ends as at their beginnings -/
theorem run_leavesOut {full part : List Operation} (h : LeavesOut full part) {a b : History} (hbare : a.bare = b.bare) :
    (a.run full).2.bare = (b.run part).2.bare ∧ resultsOfReal (a.run full).1 = resultsOfReal (b.run part).1 := by
  induction h generalizing a b with
  | nil => exact ⟨hbare, rfl⟩
  | @skip full part operation hdraft h ih =>
    obtain ⟨hfinal, hresults⟩ := ih ((perform_draft hdraft).trans hbare)
    refine ⟨hfinal, ?_⟩
    simpa only [run, resultsOfReal, List.filter_cons, hdraft, Bool.not_true, Bool.false_eq_true, ite_false]
      using hresults
  | @keep full part operation h ih =>
    cases hdraft : operation.isDraft with
    | true =>
      obtain ⟨hfinal, hresults⟩ := ih ((perform_draft hdraft).trans (hbare.trans (perform_draft hdraft).symm))
      refine ⟨hfinal, ?_⟩
      simpa only [run, resultsOfReal, List.filter_cons, hdraft, Bool.not_true, Bool.false_eq_true, ite_false]
        using hresults
    | false =>
      obtain ⟨hresult, hnext⟩ := perform_bare a hdraft
      obtain ⟨hresult', hnext'⟩ := perform_bare b hdraft
      rw [hbare] at hresult hnext
      obtain ⟨hfinal, hresults⟩ := ih (hnext.trans hnext'.symm)
      refine ⟨hfinal, ?_⟩
      simp only [run, resultsOfReal, List.filter_cons, hdraft, Bool.not_false, ite_true, hresult, ← hresult']
      exact congrArg _ hresults

/-- **Drafts leave no trace in the real steps.** Let a stored log be read, and let operations be done to it one after
another. The log without its draft is a log as well, and if the operations are done to this one or to that one, with
any of the drafts left out, then the real steps in the end are the same, and every operation that hands in no draft
comes to the same outcome or to the same failure. -/
theorem drafts_leave_no_trace {attemptId : String} {steps : List Step} {history : History}
    (hread : ofSteps attemptId steps = .ok history) :
    ∃ real, ofSteps attemptId (AttemptLog.realSteps steps) = .ok real ∧
      ∀ start, start = history ∨ start = real → ∀ full part, LeavesOut full part →
        AttemptLog.realSteps (start.run part).2.steps = AttemptLog.realSteps (history.run full).2.steps ∧
          resultsOfReal (start.run part).1 = resultsOfReal (history.run full).1 := by
  obtain ⟨-, -, -, hmarked⟩ := ofSteps_eq_ok hread
  refine ⟨history.bare, ofSteps_realSteps hread, fun start hstart full part hleaves => ?_⟩
  have hsame : start.Marked ∧ history.bare = start.bare := by
    rcases hstart with rfl | rfl
    · exact ⟨hmarked, rfl⟩
    · exact ⟨hmarked.bare, rfl⟩
  obtain ⟨hfinal, hresults⟩ := run_leavesOut hleaves hsame.2
  have hreal := congrArg History.realSteps hfinal
  rw [realSteps_bare, realSteps_bare] at hreal
  refine ⟨?_, hresults.symm⟩
  rw [(run_marked hsame.1 part).realSteps_steps, (run_marked hmarked full).realSteps_steps, hreal]

def drafted : History where
  attemptId := "attempt"
  earlier := []
  current := ⟨"first", "attempt", 0, .todo, Keyed.empty, .year2024, false⟩
  draft := some ⟨"draft", "attempt", 1, .todo, Keyed.empty.insert "answer" " ", .year2024, true⟩

/-- a learner works on it with drafts in between, closes it and is graded -/
def sitting : List Operation :=
  let answer := Keyed.empty.insert "answer" "42"
  [⟨⟨"second", .year2024⟩, .submit (.autosave answer)⟩, ⟨⟨"third", .year2024⟩, .submit (.save answer)⟩,
    ⟨⟨"fourth", .year2024⟩, .submit (.autosave Keyed.empty)⟩, ⟨⟨"fifth", .year2024⟩, .submit (.save answer)⟩,
    ⟨⟨"sixth", .year2024⟩, .submit (.finish answer)⟩, ⟨⟨"seventh", .year2024⟩, .submit (.autosave Keyed.empty)⟩,
    ⟨⟨"eighth", .year2024⟩, .submit (.append answer)⟩, ⟨⟨"ninth", .year2024⟩, .submit (.grade .graded none)⟩]

theorem drafts_leave_no_trace_sitting :
    ofSteps "attempt" drafted.steps = .ok drafted ∧
      ∃ (real : History) (part : List Operation), ofSteps "attempt" (AttemptLog.realSteps drafted.steps) = .ok real ∧
        LeavesOut sitting part ∧ part.all (fun operation => !operation.isDraft) = true ∧
        AttemptLog.realSteps (real.run part).2.steps = AttemptLog.realSteps (drafted.run sitting).2.steps ∧
        resultsOfReal (real.run part).1 = resultsOfReal (drafted.run sitting).1 ∧
        (AttemptLog.realSteps (drafted.run sitting).2.steps).map (·.id) = ["first", "third", "sixth", "ninth"] := by
  have hread : ofSteps "attempt" drafted.steps = .ok drafted := rfl
  have hleaves : LeavesOut sitting (sitting.filter fun operation => !operation.isDraft) :=
    .skip rfl (.keep _ (.skip rfl (.keep _ (.keep _ (.skip rfl (.keep _ (.keep _ .nil)))))))
  obtain ⟨real, hreal, hsame⟩ := drafts_leave_no_trace hread
  obtain ⟨hsteps, hresults⟩ := hsame real (.inr rfl) _ _ hleaves
  exact ⟨hread, real, _, hreal, hleaves, rfl, hsteps, hresults, by decide⟩

end History

end AttemptLog
