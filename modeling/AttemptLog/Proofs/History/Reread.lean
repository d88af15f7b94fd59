import AttemptLog.Proofs.History.Drafts
import AttemptLog.Proofs.History.Version
import AttemptLog.Proofs.Json.Record
import AttemptLog.Step.Reader
/-!
What is stored is read again as it was.

The text of a stored step is read as that step (`Step.read_render`), and the text of a stored attempt as that attempt
(`Attempt.read_render`). Operations lead from logs to logs as long as there is room for the numbers of the steps
(`run_isLog`), so a log can be written down at any time and gone on with when it is read again (`nothing_lost`).
-/
namespace AttemptLog

open Json

theorem reads_instant (instant : Instant) : Reads readInstant (quoted instant.render) instant :=
  reads_meaning (Instant.read?_render instant)

/-- **A stored step is read as it was.** -/
theorem Step.read_render (step : Step) : Step.read step.toJson.render = .ok step := by
  have hfinish : Step.Parts.step? ⟨some step.id, some step.attemptId, some step.number, some step.state,
      some step.response, some step.time, some step.isDraft⟩ = some step := rfl
  refine Reader.whole_render (readRecord_takes ?_ hfinish [])
  exact .cons (reads_field rfl rfl ((reads_string step.id).map _)) <|
    .cons (reads_field rfl rfl ((reads_string step.attemptId).map _)) <|
    .cons (reads_field rfl rfl ((reads_uint32 step.number).map _)) <|
    .cons (reads_field rfl rfl ((reads_spelled (ofSpelling?_state step.state)).map _)) <|
    .cons (reads_field rfl rfl ((reads_response step.response).map _)) <|
    .cons (reads_field rfl rfl ((reads_instant step.time).map _)) <|
    .cons (reads_field rfl rfl ((reads_bool step.isDraft).map _)) <| .nil _

/-- **A stored attempt is read as it was.** -/
theorem Attempt.read_render (attempt : Attempt) : Attempt.read attempt.toJson.render = .ok attempt := by
  have hfinish : Attempt.Parts.attempt? ⟨some attempt.id, some attempt.questionId, some attempt.userId,
      some attempt.created⟩ = some attempt := rfl
  refine Reader.whole_render (readRecord_takes ?_ hfinish [])
  exact .cons (reads_field rfl rfl ((reads_string attempt.id).map _)) <|
    .cons (reads_field rfl rfl ((reads_string attempt.questionId).map _)) <|
    .cons (reads_field rfl rfl ((reads_string attempt.userId).map _)) <|
    .cons (reads_field rfl rfl ((reads_instant attempt.created).map _)) <| .nil _

/-! ## Logs after operations -/

theorem IsLog.concat {attemptId : String} {steps : List Step} (h : IsLog attemptId steps)
    (hreal : ∀ step ∈ steps, step.isDraft = false) {step : Step} (howner : step.attemptId = attemptId)
    (hnumber : step.number.toNat = steps.length) : IsLog attemptId (steps ++ [step]) where
  nonempty := by simp
  owned other hmem := by
    rcases List.mem_append.1 hmem with hold | hnew
    · exact h.owned other hold
    · rw [List.mem_singleton.1 hnew, howner]
  numbered := Numbered.append h.numbered hnumber
  draftLast place hplace hdraft := by
    rw [List.length_append, List.length_singleton] at hplace ⊢
    by_cases hlast : place < steps.length
    · rw [List.getElem_append_left hlast, hreal _ (List.getElem_mem hlast)] at hdraft
      cases hdraft
    · have hpos := List.length_pos_iff.2 h.nonempty
      omega

namespace History

/-- what can become of a history in one operation: nothing, or its draft is gone, or another draft or a real step
takes the place of the draft -/
inductive Becomes (history : History) (stamp : Stamp) : History → Prop where
  | same : Becomes history stamp history
  | bare : Becomes history stamp history.bare
  | draft (response : Response) (state : State) :
    Becomes history stamp { history with draft := some (history.following response state true stamp) }
  | push (response : Response) (state : State) : Becomes history stamp (history.push response state stamp).history

theorem perform_becomes (history : History) (operation : Operation) :
    Becomes history operation.stamp (history.perform operation).2 := by
  unfold perform
  cases hact : history.act operation.stamp operation.action with
  | error failure => exact .same
  | ok decision =>
    rcases act_effect hact with heffect | ⟨response, state, rfl⟩
    · cases heffect with
      | keep => exact .same
      | drop => exact .bare
      | draft outcome response => exact .draft response _
      | push response state => exact .push response state
    · exact .push response state

namespace Becomes

variable {history next : History} {stamp : Stamp}

theorem attemptId_eq (h : Becomes history stamp next) : next.attemptId = history.attemptId := by
  cases h <;> rfl

theorem realSteps_isPrefix (h : Becomes history stamp next) : history.realSteps <+: next.realSteps := by
  cases h with
  | same | bare | draft => exact List.prefix_refl _
  | push => exact List.prefix_append _ _

/-- what a log becomes is a log, as long as there is a number for a further step -/
theorem isLog (h : Becomes history stamp next) (hmarked : history.Marked) (hlog : IsLog history.attemptId history.steps)
    (hsmall : history.realSteps.length < 2 ^ 32) : IsLog history.attemptId next.steps := by
  have hreal := hlog.realSteps hmarked
  have hnumber := toNat_number_following hreal.numbered hsmall
  cases h with
  | same => exact hlog
  | bare => rwa [steps_bare]
  | draft response state => exact hreal.concat hmarked.real rfl hnumber
  | push response state =>
    rw [steps, History.push, Option.toList_none, List.append_nil]
    exact hreal.concat hmarked.real rfl hnumber

end Becomes

theorem run_isPrefix (history : History) (operations : List Operation) :
    history.realSteps <+: (history.run operations).2.realSteps := by
  induction operations generalizing history with
  | nil => exact List.prefix_refl _
  | cons operation rest ih => exact (perform_becomes history operation).realSteps_isPrefix.trans (ih _)

/-- **Operations lead from logs to logs**, as long as there is room for the numbers of the steps. -/
theorem run_isLog {history : History} (hmarked : history.Marked) (hlog : IsLog history.attemptId history.steps)
    (operations : List Operation) (hroom : (history.run operations).2.realSteps.length < 2 ^ 32) :
    (history.run operations).2.attemptId = history.attemptId ∧
      IsLog history.attemptId (history.run operations).2.steps := by
  induction operations generalizing history with
  | nil => exact ⟨rfl, hlog⟩
  | cons operation rest ih =>
    have hbecomes := perform_becomes history operation
    have hsmall : history.realSteps.length < 2 ^ 32 :=
      Nat.lt_of_le_of_lt (run_isPrefix history (operation :: rest)).length_le hroom
    have hlog' := hbecomes.isLog hmarked hlog hsmall
    rw [← hbecomes.attemptId_eq] at hlog' ⊢
    exact ih (perform_marked hmarked operation) hlog' hroom

/-- **What an operation leaves of a log is read back**, as long as there is a number for a further step. -/
theorem ofSteps_perform {attemptId : String} {steps : List Step} {history : History}
    (hread : ofSteps attemptId steps = .ok history) (hsmall : (AttemptLog.realSteps steps).length < 2 ^ 32)
    (operation : Operation) :
    ofSteps attemptId (history.perform operation).2.steps = .ok (history.perform operation).2 := by
  obtain ⟨hlog, rfl, rfl, hmarked⟩ := ofSteps_eq_ok hread
  rw [hmarked.realSteps_steps] at hsmall
  have hbecomes := perform_becomes history operation
  have hlog' := hbecomes.isLog hmarked hlog hsmall
  rw [← hbecomes.attemptId_eq] at hlog' ⊢
  exact ofSteps_steps (perform_marked hmarked operation) hlog'

theorem ofSteps_start (attemptId : String) (stamp : Stamp) :
    ofSteps attemptId (start attemptId stamp).steps = .ok (start attemptId stamp) := by
  simp [ofSteps, start, steps, realSteps, firstFlaw, flawAt]

theorem mapM_read_render (steps : List Step) :
    steps.mapM (fun step => Step.read step.toJson.render) = Except.ok steps := by
  induction steps with
  | nil => rfl
  | cons step rest ih =>
    rw [List.mapM_cons, Step.read_render, ih]
    rfl

/-- **Nothing is lost in the stored form.**

- Every step and every attempt is read from its text as it was.
- Let a log be read and let operations be done to it, so that there are fewer than 2^32 real steps in the end. Then
  the texts of its steps are read, the log is read back from these steps, and whatever is done to it then comes to the
  same as if it had not been stored in between. -/
theorem nothing_lost :
    (∀ step : Step, Step.read step.toJson.render = .ok step) ∧
      (∀ attempt : Attempt, Attempt.read attempt.toJson.render = .ok attempt) ∧
      ∀ attemptId steps history operations, ofSteps attemptId steps = .ok history →
        (history.run operations).2.realSteps.length < 2 ^ 32 →
        ∃ decoded again,
          (history.run operations).2.steps.mapM (fun step => Step.read step.toJson.render) = Except.ok decoded ∧
            ofSteps attemptId decoded = .ok again ∧
            again = (history.run operations).2 ∧
            ∀ further, again.run further = (history.run operations).2.run further := by
  refine ⟨Step.read_render, Attempt.read_render, fun attemptId steps history operations hread hroom => ?_⟩
  obtain ⟨hlog, rfl, rfl, hmarked⟩ := ofSteps_eq_ok hread
  obtain ⟨hid, hlog'⟩ := run_isLog hmarked hlog operations hroom
  rw [← hid] at hlog' ⊢
  exact ⟨_, _, mapM_read_render _, ofSteps_steps (run_marked hmarked operations) hlog', rfl, fun _ => rfl⟩

/-- a draft with names and values that have to be escaped, a step of the caller's choice with the same response, and an
empty draft, all of them on a leap second long before the first year -/
def oddities : List Operation :=
  let midnight : Instant := ⟨⟨-44, 12, 31, by decide⟩, 86399, 1500000000, by decide⟩
  let response : Response := Keyed.empty.insert "\"\x01\\" "\n"
  [⟨⟨"second", midnight⟩, .submit (.autosave response)⟩, ⟨⟨"third", midnight⟩, .record response .complete⟩,
    ⟨⟨"fourth", midnight⟩, .submit (.autosave Keyed.empty)⟩]

theorem nothing_lost_oddities :
    ofSteps "attempt" (start "attempt" ⟨"first", .year2024⟩).steps = .ok (start "attempt" ⟨"first", .year2024⟩) ∧
      (((start "attempt" ⟨"first", .year2024⟩).run oddities).2.steps.map fun step => (step.id, step.number)) =
        [("first", 0), ("third", 1), ("fourth", 2)] ∧
      ∃ decoded,
        ((start "attempt" ⟨"first", .year2024⟩).run oddities).2.steps.mapM (fun step => Step.read step.toJson.render) =
            Except.ok decoded ∧
          ofSteps "attempt" decoded = .ok ((start "attempt" ⟨"first", .year2024⟩).run oddities).2 := by
  have hread := ofSteps_start "attempt" ⟨"first", .year2024⟩
  have hroom : ((start "attempt" ⟨"first", .year2024⟩).run oddities).2.realSteps.length < 2 ^ 32 := by decide
  obtain ⟨decoded, again, hdecoded, hagain, rfl, -⟩ := nothing_lost.2.2 _ _ _ oddities hread hroom
  exact ⟨hread, by decide, decoded, hdecoded, hagain⟩

end History

end AttemptLog
