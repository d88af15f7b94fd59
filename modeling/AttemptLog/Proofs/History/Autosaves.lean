import AttemptLog.Proofs.History.Reread
import Mathlib.Data.List.DropRight
/-!
Drafts that are handed in one after another.

However many drafts are handed in, what is left of them depends on the last one only: nothing if it repeats the last
real step, and else one draft with its response. Which step that is, is told by the drafts before it: a draft that is
handed in again is not stored again, so the one that is kept is the first of the last drafts in a row with one
response. `Tracks` is the invariant, for all responses at once, and `autosaves_reconciled` the result.
-/
namespace AttemptLog

/-- a draft that is handed in, and what is issued to it -/
structure Autosave where
  stamp : Stamp
  response : Response

def Autosave.operation (autosave : Autosave) : Operation := ⟨autosave.stamp, .submit (.autosave autosave.response)⟩

/-- the first of the drafts at the end of a list that have a response all of them -/
def firstOfLast (response : Response) (drafts : List Step) : Option Step :=
  (drafts.rtakeWhile fun draft => draft.response = response).head?

theorem firstOfLast_concat_of_eq {response : Response} {drafts : List Step} {draft : Step}
    (h : draft.response = response) :
    firstOfLast response (drafts ++ [draft]) = some ((firstOfLast response drafts).getD draft) := by
  rw [firstOfLast, List.rtakeWhile_concat_pos _ _ _ (by simpa using h), firstOfLast, List.head?_append]
  cases (drafts.rtakeWhile fun draft => draft.response = response).head? <;> rfl

theorem firstOfLast_concat_of_ne {response : Response} {drafts : List Step} {draft : Step}
    (h : draft.response ≠ response) : firstOfLast response (drafts ++ [draft]) = none := by
  rw [firstOfLast, List.rtakeWhile_concat_neg _ _ _ (by simpa using h)]
  rfl

theorem of_firstOfLast {response : Response} {drafts : List Step} {draft : Step}
    (h : firstOfLast response drafts = some draft) :
    draft ∈ drafts ∧ draft.response = response := by
  have hmem := List.mem_of_head? h
  refine ⟨(List.rtakeWhile_suffix _ _).mem hmem, ?_⟩
  simpa using List.mem_rtakeWhile_imp hmem

namespace History

def draftOf (history : History) (autosave : Autosave) : Step :=
  history.following autosave.response (.ofResponse autosave.response) true autosave.stamp

/-- does a history have the draft that is left of these drafts, whatever response the next one has -/
def Tracks (history : History) (drafts : List Step) : Prop :=
  ∀ response, response ≠ history.current.response →
    history.draft.filter (fun draft => draft.response = response) = firstOfLast response drafts

theorem tracks_draft (history : History) : history.Tracks history.draft.toList := by
  intro response hresponse
  cases history.draft with
  | none => rfl
  | some draft =>
    by_cases hsame : draft.response = response
    · simp [firstOfLast, List.rtakeWhile, hsame]
    · simp [firstOfLast, List.rtakeWhile, hsame]

/-! ## One draft -/

/-- the history after a draft is handed in: one without a draft if it repeats the last real step, and else one with
the draft that is there already or with the new one -/
def redraft (history : History) (autosave : Autosave) : History :=
  { history with
    draft :=
      if autosave.response = history.current.response then none
      else some ((history.draft.filter fun draft => draft.response = autosave.response).getD
        (history.draftOf autosave)) }

theorem autosave_history (history : History) (autosave : Autosave) :
    (history.autosave autosave.response autosave.stamp).history = history.redraft autosave := by
  obtain ⟨attemptId, earlier, current, draft⟩ := history
  by_cases hsame : autosave.response = current.response
  · cases draft with
    | none => simp [History.autosave, redraft, hsame]
    | some draft => simp [History.autosave, redraft, dropDraft, hsame]
  · cases draft with
    | none => simp [History.autosave, redraft, draftOf, hsame]
    | some draft =>
      by_cases hagain : draft.response = autosave.response
      · simp [History.autosave, redraft, Option.filter_some, hsame, hagain]
      · simp [History.autosave, redraft, draftOf, following, Option.filter_some, hsame, hagain]

theorem perform_autosave {history : History} (hopen : history.isClosed = false) (autosave : Autosave) :
    ∃ outcome, history.perform autosave.operation = (.ok outcome, history.redraft autosave) := by
  have hact : history.act autosave.operation.stamp autosave.operation.action =
      .ok (history.autosave autosave.response autosave.stamp) := by
    simp [Autosave.operation, act, submit, whenOpen, hopen]
  refine ⟨(history.autosave autosave.response autosave.stamp).change.outcome, ?_⟩
  simp only [perform, hact, autosave_history]

/-- a draft that does not repeat the last real step leaves a draft with its response -/
theorem exists_redraft {history : History} {autosave : Autosave} (h : autosave.response ≠ history.current.response) :
    ∃ draft, (history.redraft autosave).draft = some draft ∧ draft.response = autosave.response := by
  simp only [redraft, if_neg h]
  cases hkept : history.draft.filter fun draft => draft.response = autosave.response with
  | none => exact ⟨history.draftOf autosave, rfl, rfl⟩
  | some draft => exact ⟨draft, rfl, by simpa using (Option.filter_eq_some_iff.1 hkept).2⟩

/-- **One draft more is tracked.** -/
theorem Tracks.redraft {history : History} {drafts : List Step} (h : history.Tracks drafts) (autosave : Autosave) :
    (history.redraft autosave).Tracks (drafts ++ [history.draftOf autosave]) := by
  intro response hresponse
  have htracks := h response hresponse
  by_cases hsame : autosave.response = response
  · -- the last drafts with this response are one more, the first of which is that of before, if there was one
    have hnew : autosave.response ≠ history.current.response := by
      rw [hsame]
      exact hresponse
    have hdraft : (history.draftOf autosave).response = response := hsame
    rw [firstOfLast_concat_of_eq hdraft, ← htracks, History.redraft, if_neg hnew, hsame]
    cases hkept : history.draft.filter fun draft => draft.response = response with
    | none => simp [hdraft]
    | some draft =>
      have hagain : draft.response = response := by simpa using (Option.filter_eq_some_iff.1 hkept).2
      simp [hagain]
  · have hdraft : (history.draftOf autosave).response ≠ response := hsame
    rw [firstOfLast_concat_of_ne hdraft]
    by_cases hback : autosave.response = history.current.response
    · rw [History.redraft, if_pos hback]
      rfl
    · obtain ⟨draft, hredraft, hagain⟩ := exists_redraft hback
      simp [hredraft, hagain, hsame]

/-! ## One draft after another -/

/-- **Every draft goes through while the history is open.** -/
theorem run_autosaves {history : History} (hopen : history.isClosed = false) (autosaves : List Autosave) :
    (history.run (autosaves.map Autosave.operation)).1.map (·.1) = autosaves.map Autosave.operation ∧
      (∀ entry ∈ (history.run (autosaves.map Autosave.operation)).1, ∃ outcome, entry.2 = .ok outcome) ∧
      (history.run (autosaves.map Autosave.operation)).2 = autosaves.foldl redraft history := by
  induction autosaves generalizing history with
  | nil => simp [run]
  | cons autosave rest ih =>
    obtain ⟨outcome, hperform⟩ := perform_autosave hopen autosave
    have hopen' : (history.redraft autosave).isClosed = false := hopen
    obtain ⟨hentries, hok, hafter⟩ := ih hopen'
    simp only [List.map_cons, run, hperform, hentries, hafter, List.foldl_cons, true_and, and_true]
    intro entry hentry
    rcases List.mem_cons.1 hentry with rfl | hrest
    · exact ⟨outcome, rfl⟩
    · exact hok entry hrest

theorem bare_redrafts (history : History) (autosaves : List Autosave) :
    (autosaves.foldl redraft history).bare = history.bare := by
  induction autosaves generalizing history with
  | nil => rfl
  | cons autosave rest ih => exact ih (history.redraft autosave)

theorem current_redrafts (history : History) (autosaves : List Autosave) :
    (autosaves.foldl redraft history).current = history.current := by
  have hbare := congrArg History.current (bare_redrafts history autosaves)
  exact hbare

/-- **All drafts are tracked.** -/
theorem Tracks.redrafts {history : History} {drafts : List Step} (h : history.Tracks drafts)
    (autosaves : List Autosave) :
    (autosaves.foldl History.redraft history).Tracks (drafts ++ autosaves.map history.draftOf) := by
  induction autosaves generalizing history drafts with
  | nil => simpa using h
  | cons autosave rest ih =>
    have hrest := ih (h.redraft autosave)
    rw [List.append_assoc] at hrest
    exact hrest

theorem draft_redrafts (history : History) {autosaves : List Autosave} {last : Autosave}
    (hlast : autosaves.getLast? = some last) :
    (autosaves.foldl redraft history).draft =
      if last.response = history.current.response then none
      else firstOfLast last.response (history.draft.toList ++ autosaves.map history.draftOf) := by
  have htracks := (tracks_draft history).redrafts autosaves last.response
  rw [current_redrafts] at htracks
  obtain ⟨before, rfl⟩ := List.getLast?_eq_some_iff.1 hlast
  have hcurrent := current_redrafts history before
  simp only [List.foldl_append, List.foldl_cons, List.foldl_nil] at htracks ⊢
  split
  · next hback => rw [redraft, hcurrent, if_pos hback]
  · next hnew =>
    rw [← htracks hnew]
    rw [← hcurrent] at hnew
    obtain ⟨draft, hredraft, hagain⟩ := exists_redraft hnew
    rw [hredraft, Option.filter_some, if_pos (by simpa using hagain)]

/-! ## Stored logs -/

theorem toNat_number_draft {history : History} (hlog : IsLog history.attemptId history.steps) {draft : Step}
    (hdraft : history.draft = some draft) : draft.number.toNat = history.realSteps.length := by
  have hsteps : history.steps = history.realSteps ++ [draft] := by rw [steps, hdraft, Option.toList_some]
  have hnumber := hlog.numbered history.realSteps.length (by simp [hsteps])
  simpa [hsteps] using hnumber

/-- a draft that is handed in is stored as it is, or one with its response is there already -/
theorem draftOf_spec {history : History} (hlog : IsLog history.attemptId history.steps) (hmarked : history.Marked)
    (hsmall : history.realSteps.length < 2 ^ 32) {autosaves : List Autosave} {draft : Step}
    (hmem : draft ∈ history.draft.toList ++ autosaves.map history.draftOf) :
    draft.isDraft = true ∧ draft.number.toNat = history.realSteps.length ∧
      (history.draft = some draft ∨ ∃ autosave ∈ autosaves, draft.id = autosave.stamp.id ∧
        draft.time = autosave.stamp.time ∧ draft.state = .ofResponse draft.response) := by
  rcases List.mem_append.1 hmem with hpending | hnew
  · have hdraft : history.draft = some draft := Option.mem_toList.1 hpending
    exact ⟨hmarked.draft draft hdraft, toNat_number_draft hlog hdraft, .inl hdraft⟩
  · obtain ⟨autosave, hautosave, rfl⟩ := List.mem_map.1 hnew
    have hnumber := toNat_number_following (hlog.realSteps hmarked).numbered hsmall
    exact ⟨rfl, hnumber, .inr ⟨autosave, hautosave, rfl, rfl, rfl⟩⟩

/-- **What is left of drafts depends on the last one.** Let a stored log be read that has fewer than 2^32 real steps,
of which none closed the attempt, and let drafts be handed in one after another.

- All of them go through, and the real steps stay as they are.
- If the last draft repeats the last real step, the log ends with that step.
- Else one draft follows the real steps. It has the response of the last draft that was handed in, and the number of
  real steps as its number. It is the first of the last drafts in a row with this response, where the draft that the
  log had comes before those that were handed in. So it is that draft, as it was stored, or it is new; then its
  identity and its time are those that were issued to the first draft of the row, and its state is that of its
  response. -/
theorem autosaves_reconciled {attemptId : String} {steps : List Step} {history : History}
    (hread : ofSteps attemptId steps = .ok history) (hopen : history.isClosed = false)
    (hroom : (AttemptLog.realSteps steps).length < 2 ^ 32) {autosaves : List Autosave} {last : Autosave}
    (hlast : autosaves.getLast? = some last) :
    ∃ results final real, history.run (autosaves.map Autosave.operation) = (results, final) ∧
      results.map (·.1) = autosaves.map Autosave.operation ∧
      (∀ entry ∈ results, ∃ outcome, entry.2 = .ok outcome) ∧
      AttemptLog.realSteps final.steps = AttemptLog.realSteps steps ∧
      (AttemptLog.realSteps steps).getLast? = some real ∧
      (last.response = real.response → final.steps = AttemptLog.realSteps steps) ∧
      (last.response ≠ real.response → ∃ draft,
        final.steps = AttemptLog.realSteps steps ++ [draft] ∧ draft.isDraft = true ∧ draft.response = last.response ∧
          draft.number.toNat = (AttemptLog.realSteps steps).length ∧
          firstOfLast last.response (history.draft.toList ++ autosaves.map history.draftOf) = some draft ∧
          (history.draft = some draft ∨ ∃ autosave ∈ autosaves, draft.id = autosave.stamp.id ∧
            draft.time = autosave.stamp.time ∧ draft.state = .ofResponse last.response)) := by
  obtain ⟨hlog, rfl, rfl, hmarked⟩ := ofSteps_eq_ok hread
  rw [hmarked.realSteps_steps] at hroom ⊢
  obtain ⟨hentries, hok, hafter⟩ := run_autosaves hopen autosaves
  have hdraft := draft_redrafts history hlast
  have hmarked' : (autosaves.foldl redraft history).Marked := hafter ▸ run_marked hmarked _
  have hreal : (autosaves.foldl redraft history).realSteps = history.realSteps := by
    rw [← realSteps_bare, bare_redrafts, realSteps_bare]
  refine ⟨_, autosaves.foldl redraft history, history.current, Prod.ext rfl hafter, hentries, hok, ?_,
    getLast?_realSteps history, ?_, ?_⟩
  · rw [hmarked'.realSteps_steps, hreal]
  · intro hback
    rw [if_pos hback] at hdraft
    rw [steps, hreal, hdraft, Option.toList_none, List.append_nil]
  · intro hnew
    rw [if_neg hnew] at hdraft
    obtain ⟨before, rfl⟩ := List.getLast?_eq_some_iff.1 hlast
    obtain ⟨draft, hkept⟩ : ∃ draft,
        firstOfLast last.response (history.draft.toList ++ (before ++ [last]).map history.draftOf) = some draft := by
      rw [List.map_append, ← List.append_assoc]
      exact ⟨_, firstOfLast_concat_of_eq rfl⟩
    obtain ⟨hmem, hresponse⟩ := of_firstOfLast hkept
    obtain ⟨hmark, hnumber, hwhose⟩ := draftOf_spec hlog hmarked hroom hmem
    rw [hresponse] at hwhose
    refine ⟨draft, ?_, hmark, hresponse, hnumber, hkept, hwhose⟩
    rw [steps, hreal, hdraft, hkept, Option.toList_some]

/-- a learner who makes up his mind twice -/
def wavering : List Autosave :=
  let answer := Keyed.empty.insert "answer" "42"
  [⟨⟨"second", .year2024⟩, answer⟩, ⟨⟨"third", .year2024⟩, Keyed.empty⟩, ⟨⟨"fourth", .year2024⟩, answer⟩,
    ⟨⟨"fifth", .year2024⟩, answer⟩]

theorem autosaves_reconciled_wavering :
    ofSteps "attempt" drafted.steps = .ok drafted ∧ drafted.isClosed = false ∧
      (AttemptLog.realSteps drafted.steps).length < 2 ^ 32 ∧
      ∃ results final draft, drafted.run (wavering.map Autosave.operation) = (results, final) ∧
        (∀ entry ∈ results, ∃ outcome, entry.2 = .ok outcome) ∧
        final.steps = AttemptLog.realSteps drafted.steps ++ [draft] ∧ draft.id = "fourth" ∧ draft.number.toNat = 1 := by
  have hread : ofSteps "attempt" drafted.steps = .ok drafted := rfl
  have hlast : wavering.getLast? = some ⟨⟨"fifth", .year2024⟩, Keyed.empty.insert "answer" "42"⟩ := rfl
  obtain ⟨results, final, real, hrun, -, hok, -, hreal, -, hkept⟩ := autosaves_reconciled hread rfl (by decide) hlast
  obtain rfl : drafted.current = real := Option.some.inj hreal
  obtain ⟨draft, hsteps, -, -, hnumber, hfirst, -⟩ := hkept (by decide)
  have hfourth : (firstOfLast (Keyed.empty.insert "answer" "42")
      (drafted.draft.toList ++ wavering.map drafted.draftOf)).map (·.id) = some "fourth" := by decide
  have hid : draft.id = "fourth" := by
    rw [hfirst] at hfourth
    exact Option.some.inj hfourth
  exact ⟨hread, rfl, by decide, results, final, draft, hrun, hok, hsteps, hid, hnumber⟩

/-- a log that was stored with a draft whose state is not that of its response -/
def mislabelled : History :=
  { drafted with draft := some ⟨"draft", "attempt", 1, .todo, Keyed.empty.insert "answer" "42", .year2024, true⟩ }

/-- the state of a draft that is handed in again stays as it was stored, whatever the response is -/
theorem state_kept_mislabelled :
    ofSteps "attempt" mislabelled.steps = .ok mislabelled ∧ mislabelled.isClosed = false ∧
      (AttemptLog.realSteps mislabelled.steps).length < 2 ^ 32 ∧
      ∃ autosave : Autosave, autosave.response ≠ mislabelled.current.response ∧
        ¬ ∃ draft, (mislabelled.run [autosave.operation]).2.steps = AttemptLog.realSteps mislabelled.steps ++ [draft] ∧
          draft.state = .ofResponse autosave.response := by
  refine ⟨rfl, rfl, by decide, ⟨⟨"second", .year2024⟩, Keyed.empty.insert "answer" "42"⟩, by decide, ?_⟩
  rintro ⟨draft, hsteps, hstate⟩
  have hkept : (mislabelled.run
      [Autosave.operation ⟨⟨"second", .year2024⟩, Keyed.empty.insert "answer" "42"⟩]).2.steps =
      AttemptLog.realSteps mislabelled.steps ++ mislabelled.draft.toList := by decide
  rw [hkept, List.append_cancel_left_eq] at hsteps
  obtain rfl := List.singleton_inj.1 hsteps
  revert hstate
  decide

end History

end AttemptLog
