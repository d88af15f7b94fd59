import AttemptLog.Proofs.History.Stored
/-!
What is said about steps that are no log.

A step is checked at its place for its owner, its number and its mark, in this order, and the first check that it
fails is the reason (`Fails`). The places are looked at from the front, so the reason is about the smallest place with
a step that fails one (`Blamed`). `ofSteps_or_first_flaw` says that nothing else comes out of reading steps: a list is
a log and is read back as it is, or it is refused for its first flaw.
-/
namespace AttemptLog

/-- is a step of this attempt in its place in a list of so many steps -/
structure InPlace (attemptId : String) (count place : Nat) (step : Step) : Prop where
  owned : step.attemptId = attemptId
  numbered : step.number.toNat = place
  draftLast : step.isDraft = true → 0 < place ∧ place + 1 = count

/-- the first check that a step fails at its place in a list of so many steps, by the reason that is given for it -/
inductive Fails (attemptId : String) (count place : Nat) (step : Step) : String → Prop where
  | owner (howner : step.attemptId ≠ attemptId) :
      Fails attemptId count place step ("step " ++ step.id ++ " belongs to attempt " ++ step.attemptId)
  | number (howner : step.attemptId = attemptId) (hnumber : step.number.toNat ≠ place) :
      Fails attemptId count place step ("step " ++ step.id ++ " has sequence number " ++ toString step.number.toNat ++
        ", expected " ++ toString place)
  | draft (howner : step.attemptId = attemptId) (hnumber : step.number.toNat = place) (hdraft : step.isDraft = true)
      (hplace : ¬(0 < place ∧ place + 1 = count)) :
      Fails attemptId count place step ("autosave step " ++ step.id ++ " is not at the tail")

/-- the reason why these steps are no log of this attempt: there are none, or the first step that is not in its place -/
inductive Blamed (attemptId : String) (steps : List Step) : String → Prop where
  | empty (hempty : steps = []) : Blamed attemptId steps "no steps recorded"
  | step (place : Nat) (hplace : place < steps.length)
      (hbefore : ∀ earlier (hearlier : earlier < place), InPlace attemptId steps.length earlier steps[earlier])
      {reason : String} (hfails : Fails attemptId steps.length place steps[place] reason) :
      Blamed attemptId steps reason

theorem Fails.not_inPlace {attemptId : String} {count place : Nat} {step : Step} {reason : String}
    (h : Fails attemptId count place step reason) : ¬InPlace attemptId count place step := by
  intro hinPlace
  cases h with
  | owner howner => exact howner hinPlace.owned
  | number _ hnumber => exact hnumber hinPlace.numbered
  | draft _ _ hdraft hplace => exact hplace (hinPlace.draftLast hdraft)

theorem Blamed.not_isLog {attemptId : String} {steps : List Step} {reason : String}
    (h : Blamed attemptId steps reason) : ¬IsLog attemptId steps := by
  intro hlog
  cases h with
  | empty hempty => exact hlog.nonempty hempty
  | step place hplace _ hfails =>
    exact hfails.not_inPlace ⟨hlog.owned _ (List.getElem_mem hplace), hlog.numbered place hplace,
      hlog.draftLast place hplace⟩

namespace History

variable {attemptId : String} {flaw : Flaw}

/-! ## One place -/

theorem inPlace_of_flawAt {count place : Nat} {step : Step}
    (h : flawAt attemptId place (decide (place + 1 = count)) step = none) : InPlace attemptId count place step := by
  obtain ⟨howner, hnumber, hdraft⟩ := flawAt_eq_none_iff.1 h
  refine ⟨howner, hnumber, fun hmark => ?_⟩
  obtain ⟨hlast, hpositive⟩ := hdraft hmark
  exact ⟨hpositive, of_decide_eq_true hlast⟩

theorem fails_of_flawAt {count place : Nat} {step : Step}
    (h : flawAt attemptId place (decide (place + 1 = count)) step = some flaw) :
    Fails attemptId count place step flaw.message := by
  unfold flawAt at h
  split at h
  · next howner =>
    cases h
    exact .owner howner
  next howner =>
  rw [ne_eq, not_not] at howner
  split at h
  · next hnumber =>
    cases h
    exact .number howner hnumber
  next hnumber =>
  rw [ne_eq, not_not] at hnumber
  split at h
  · next hstray =>
    cases h
    rw [Bool.and_eq_true] at hstray
    obtain ⟨hdraft, hplace⟩ := hstray
    refine .draft howner hnumber hdraft ?_
    rintro ⟨hpositive, hlast⟩
    simp [hlast, hpositive.ne'] at hplace
  · cases h

/-! ## All places -/

theorem firstFlaw_eq_some {place : Nat} {steps : List Step} (h : firstFlaw attemptId place steps = some flaw) :
    ∃ i, ∃ hi : i < steps.length,
      (∀ j (hj : j < i), flawAt attemptId (place + j) (decide (j + 1 = steps.length)) steps[j] = none) ∧
        flawAt attemptId (place + i) (decide (i + 1 = steps.length)) steps[i] = some flaw := by
  induction steps generalizing place with
  | nil => cases h
  | cons step rest ih =>
    rw [firstFlaw_cons, Option.or_eq_some_iff] at h
    rcases h with hfirst | ⟨hnone, hrest⟩
    · exact ⟨0, Nat.zero_lt_succ _, fun _ hj => absurd hj (Nat.not_lt_zero _), hfirst⟩
    · obtain ⟨i, hi, hbefore, hfirst⟩ := ih hrest
      refine ⟨i + 1, Nat.succ_lt_succ hi, fun j hj => ?_, ?_⟩
      · cases j with
        | zero => exact hnone
        | succ j => simpa [Nat.add_assoc, Nat.add_comm 1] using hbefore j (Nat.lt_of_succ_lt_succ hj)
      · simpa [Nat.add_assoc, Nat.add_comm 1] using hfirst

/-- **Reading fails for a reason**, which is the first flaw of the steps. -/
theorem blamed_of_ofSteps {steps : List Step} {failure : Failure} (h : ofSteps attemptId steps = .error failure) :
    ∃ flaw, failure = .corrupt attemptId flaw ∧ Blamed attemptId steps flaw.message := by
  unfold ofSteps at h
  split at h
  · next flaw hflaw =>
    cases h
    obtain ⟨place, hplace, hbefore, hfirst⟩ := firstFlaw_eq_some hflaw
    simp only [Nat.zero_add] at hbefore hfirst
    exact ⟨flaw, rfl, .step place hplace (fun earlier hearlier => inPlace_of_flawAt (hbefore earlier hearlier))
      (fails_of_flawAt hfirst)⟩
  · split at h
    · next hreverse =>
      cases h
      exact ⟨.noSteps, rfl, .empty (List.reverse_eq_nil_iff.1 hreverse)⟩
    · cases h
    · split at h <;> cases h

/-- **A list of steps is a log, or it is refused for its first flaw.**

- Steps are read back if and only if they are a log of the attempt: there is one, all belong to the attempt, each has
  its place as its number, and none is a draft but possibly the last one, and that only behind another step.
- What is read back has these steps in this order, and its draft is the step that is marked as one.
- All other steps, and only those, are refused as a corrupt log of this attempt. The reason is that there is no step,
  or it is about the step at the smallest place where one is not in place, and there about the first check that fails:
  that of the owner, that of the number, that of the mark. -/
theorem ofSteps_or_first_flaw (attemptId : String) (steps : List Step) :
    ((∃ history, ofSteps attemptId steps = .ok history) ↔ IsLog attemptId steps) ∧
      (∀ history, ofSteps attemptId steps = .ok history →
        history.attemptId = attemptId ∧ history.steps = steps ∧ history.Marked) ∧
      (¬IsLog attemptId steps ↔
        ∃ flaw, ofSteps attemptId steps = .error (.corrupt attemptId flaw) ∧ Blamed attemptId steps flaw.message) := by
  refine ⟨exists_ofSteps_iff, fun history hread => (ofSteps_eq_ok hread).2, ?_, ?_⟩
  · intro hnot
    cases hread : ofSteps attemptId steps with
    | ok history => exact absurd (exists_ofSteps_iff.1 ⟨history, hread⟩) hnot
    | error failure =>
      obtain ⟨flaw, rfl, hblamed⟩ := blamed_of_ofSteps hread
      exact ⟨flaw, rfl, hblamed⟩
  · rintro ⟨flaw, -, hblamed⟩
    exact hblamed.not_isLog

/-- a draft with a wrong number, and behind it a step of another attempt -/
def misplaced : List Step :=
  [⟨"first", "attempt", 0, .todo, Keyed.empty, .year2024, false⟩,
    ⟨"draft", "attempt", 7, .complete, Keyed.empty, .year2024, true⟩,
    ⟨"other", "elsewhere", 2, .complete, Keyed.empty, .year2024, false⟩]

theorem ofSteps_or_first_flaw_misplaced :
    (∃ flaw, ofSteps "attempt" misplaced = .error (.corrupt "attempt" flaw) ∧ Blamed "attempt" misplaced flaw.message) ∧
      (ofSteps "attempt" misplaced).map History.steps =
        .error (.corrupt "attempt" (.misnumbered "draft" 7 1)) ∧
      (Flaw.misnumbered "draft" 7 1).message = "step draft has sequence number 7, expected 1" ∧
      ∃ history, ofSteps "attempt" (misplaced.take 1) = .ok history ∧ history.steps = misplaced.take 1 := by
  have hnot : ¬IsLog "attempt" misplaced := fun hlog => absurd (hlog.numbered 1 (by decide)) (by decide)
  have hread : ofSteps "attempt" (misplaced.take 1) = .ok ⟨"attempt", [], misplaced.head (by decide), none⟩ := by decide
  obtain ⟨-, hsteps, -⟩ := (ofSteps_or_first_flaw "attempt" (misplaced.take 1)).2.1 _ hread
  exact ⟨(ofSteps_or_first_flaw "attempt" misplaced).2.2.1 hnot, by decide, by decide, _, hread, hsteps⟩

end History

end AttemptLog
