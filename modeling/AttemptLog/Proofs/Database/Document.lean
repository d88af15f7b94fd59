import AttemptLog.Database.Server
import AttemptLog.Proofs.Instant.Text
import AttemptLog.Proofs.Keyed
/-!
Documents are read as what they hold.

A step that was stored is read back with all its fields (`step?_toJson`), and so is an attempt (`attempt?_toJson`).
What a database asks of such documents, whether they fit or may not stand in one table, comes down to the fields of
the steps (`fits_toJson`, `collide_toJson`).
-/
namespace AttemptLog.Database

open Json

/-! ## Members of a step -/

section Members

variable (step : Step)

theorem member?_id : step.toJson.member? "_id" = some (.string step.id) := rfl

theorem member?_attemptId : step.toJson.member? "attempt_id" = some (.string step.attemptId) := rfl

theorem member?_number : step.toJson.member? "sequence_number" = some (.number step.number.toNat 0) := rfl

theorem numberMember?_toJson : numberMember? "sequence_number" step.toJson = some step.number := by
  have hsmall : step.number.toNat < UInt32.size := step.number.toNat_lt_size
  simp only [numberMember?, member?_number]
  rw [if_pos (by omega)]
  simp

theorem responseMember?_toJson : responseMember? "data" step.toJson = some step.response := by
  have hentries : ∀ entries : List (String × String),
      (entries.map fun entry => (entry.1, Value.string entry.2)).mapM textEntry? = some entries := by
    intro entries
    induction entries with
    | nil => rfl
    | cons entry rest ih => simp [ih, textEntry?]
  have hmember : step.toJson.member? "data" = some (Response.toJson step.response) := rfl
  simp only [responseMember?, hmember, Response.toJson, hentries, Option.map_some, Keyed.ofList_entries]

theorem timeMember?_toJson : timeMember? "timestamp" step.toJson = some step.time := by
  have htext : textMember? "timestamp" step.toJson = some step.time.render := rfl
  simp only [timeMember?, htext, Option.bind_some, Instant.read?_render]

end Members

/-- **A stored step is read back.** -/
theorem step?_toJson (step : Step) : step? step.toJson = some step := by
  have hid : textMember? "_id" step.toJson = some step.id := rfl
  have howner : textMember? "attempt_id" step.toJson = some step.attemptId := rfl
  have hstate : textMember? "state" step.toJson = some (spelling step.state) := rfl
  have hdraft : flagMember? "autosave" step.toJson = some step.isDraft := rfl
  simp only [step?, hid, howner, numberMember?_toJson, hstate, Option.bind_some, ofSpelling?_state,
    responseMember?_toJson, timeMember?_toJson, hdraft, Option.bind_eq_bind]

/-- **A stored attempt is read back.** -/
theorem attempt?_toJson (attempt : Attempt) : attempt? attempt.toJson = some attempt := by
  have hid : textMember? "_id" attempt.toJson = some attempt.id := rfl
  have hquestion : textMember? "question_id" attempt.toJson = some attempt.questionId := rfl
  have huser : textMember? "user_id" attempt.toJson = some attempt.userId := rfl
  have hcreated : textMember? "created_at" attempt.toJson = some attempt.created.render := rfl
  simp only [attempt?, hid, hquestion, huser, timeMember?, hcreated, Option.bind_some, Instant.read?_render,
    Option.bind_eq_bind]

/-! ## What is asked of the documents of steps -/

theorem fits_owner (id : String) (step : Step) :
    Filter.fits [("attempt_id", id)] step.toJson = decide (step.attemptId = id) := by
  simp [Filter.fits, member?_attemptId, beq_eq_decide]

theorem fits_step (id owner : String) (step : Step) :
    Filter.fits [("_id", id), ("attempt_id", owner)] step.toJson = decide (step.id = id ∧ step.attemptId = owner) := by
  simp [Filter.fits, member?_id, member?_attemptId, beq_eq_decide]

theorem agreeIn_id (s t : Step) : agreeIn "_id" s.toJson t.toJson = decide (s.id = t.id) := by
  simp [agreeIn, member?_id, beq_eq_decide]

/-- two steps may not stand in one table if they share their identity, or their attempt and their number -/
theorem collide_toJson (s t : Step) :
    collide s.toJson t.toJson = decide (s.id = t.id ∨ s.attemptId = t.attemptId ∧ s.number = t.number) := by
  rw [collide, agreeIn_id]
  simp [agreeIn, member?_attemptId, member?_number, beq_eq_decide, UInt32.toNat_inj]

theorem fits_attempt (id : String) (attempt : Attempt) :
    Filter.fits [("_id", id)] attempt.toJson = decide (attempt.id = id) := by
  have hid : attempt.toJson.member? "_id" = some (.string attempt.id) := rfl
  simp [Filter.fits, hid, beq_eq_decide]

/-- two attempts may not stand in one table if they share their identity -/
theorem collide_attempt (a b : Attempt) : collide a.toJson b.toJson = decide (a.id = b.id) := by
  have hid : ∀ attempt : Attempt, attempt.toJson.member? "_id" = some (.string attempt.id) := fun _ => rfl
  have howner : ∀ attempt : Attempt, attempt.toJson.member? "attempt_id" = none := fun _ => rfl
  simp [collide, agreeIn, hid, howner, beq_eq_decide]

end AttemptLog.Database
