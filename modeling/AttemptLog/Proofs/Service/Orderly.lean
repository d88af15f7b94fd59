import AttemptLog.Proofs.Service.Invariant
import AttemptLog.Proofs.Service.Moments
/-!
What holds of a store whatever calls have done to it.

`Store.Orderly` says that attempts and logs go together, that each list of steps is a log which is read back, that no
two steps of the store have one identity, and how first steps and states look. `after_orderly` says that this is so
after every schedule, and `no_internal_failure` that for this reason no call ever fails for reasons of its own. Both
hold as long as no attempt has 2^32 real steps, since after that their numbers begin again at zero.
-/
namespace AttemptLog

/-- is this a failure for which no caller can do anything -/
def Failure.isInternal : Failure → Bool
  | .corrupt _ _ | .storage _ => true
  | _ => false

namespace Store

/-- do the numbers of steps tell all real steps of each attempt apart -/
def HasRoom (store : Store) : Prop :=
  ∀ id steps, store.steps.get? id = some steps → (realSteps steps).length < 2 ^ 32

instance (store : Store) : Decidable store.HasRoom :=
  decidable_of_iff (∀ steps ∈ store.steps.values, (realSteps steps).length < 2 ^ 32)
    ⟨fun h id steps hget => h steps (Keyed.mem_values_iff.2 ⟨id, hget⟩), fun h steps hmem =>
      (Keyed.mem_values_iff.1 hmem).elim fun id hget => h id steps hget⟩

/-- does each step carry its place as its number -/
def AllNumbered (store : Store) : Prop := ∀ id steps, store.steps.get? id = some steps → Numbered steps

/-- what holds of a store that only calls have worked on -/
structure Orderly (store : Store) : Prop where
  paired : ∀ id, (store.attempts.get? id).isSome = (store.steps.get? id).isSome
  named : ∀ id attempt, store.attempts.get? id = some attempt → attempt.id = id
  logs : ∀ id steps, store.steps.get? id = some steps → IsLog id steps
  readable : ∀ id steps, store.steps.get? id = some steps → ∃ history, History.ofSteps id steps = .ok history
  distinct : (store.steps.values.flatten.map Step.id).Nodup
  initial : ∀ id steps, store.steps.get? id = some steps → ∃ first rest, steps = first :: rest ∧ first.IsInitial
  classified : ∀ id steps, store.steps.get? id = some steps → ∀ step ∈ steps, step.IsClassified

theorem nodup_ids {steps : Keyed (List Step)}
    (hdistinct : ∀ id list, steps.get? id = some list → (list.map Step.id).Nodup)
    (hapart : ∀ a b as bs, steps.get? a = some as → steps.get? b = some bs → ∀ s ∈ as, ∀ t ∈ bs, s.id = t.id → a = b) :
    (steps.values.flatten.map Step.id).Nodup := by
  rw [List.map_flatten, List.nodup_flatten]
  constructor
  · intro ids hmem
    obtain ⟨list, hlist, rfl⟩ := List.mem_map.1 hmem
    obtain ⟨id, hget⟩ := Keyed.mem_values_iff.1 hlist
    exact hdistinct id list hget
  · rw [Keyed.values, List.pairwise_map, List.pairwise_map]
    refine steps.sorted.imp_of_mem fun {a b} ha hb hlt => ?_
    rw [List.disjoint_left]
    intro id hid hid'
    obtain ⟨s, hs, rfl⟩ := List.mem_map.1 hid
    obtain ⟨t, ht, hst⟩ := List.mem_map.1 hid'
    have hname := hapart a.1 b.1 a.2 b.2 (Keyed.get?_eq_some_iff.2 ha) (Keyed.get?_eq_some_iff.2 hb) s hs t ht hst.symm
    rw [hname] at hlt
    exact String.lt_irrefl b.1 hlt

end Store

theorem View.decide_failure {view : View} {submission : Submission} {expected : Option String} {stamp : Stamp}
    {failure : Failure} (h : view.decide submission expected stamp = .error failure) : failure.isInternal = false := by
  unfold View.decide at h
  split at h
  · cases h
    rfl
  · obtain ⟨-, rfl⟩ := History.submit_eq_error h
    rfl

namespace Traffic

/-! ## Numbers -/

theorem numbered_kept : KeptByEffects fun steps => (realSteps steps).length < 2 ^ 32 → Numbered steps where
  start id stamp _ := .singleton rfl
  effect history stamp decision hmarked heffect hnumbered hroom := by
    have hbefore : (realSteps history.steps).length < 2 ^ 32 :=
      Nat.lt_of_le_of_lt (heffect.real_prefix hmarked).length_le hroom
    have hnumbers := hnumbered hbefore
    rw [hmarked.realSteps_steps] at hbefore
    exact heffect.numbered hnumbers hbefore

theorem Grows.hasRoom {earlier later : Traffic} (h : Grows earlier later) (hroom : later.state.HasRoom) :
    earlier.state.HasRoom := by
  intro id before hbefore
  obtain ⟨after, hafter, hcontinues⟩ := h.steps id before hbefore
  exact Nat.lt_of_le_of_lt hcontinues.real.length_le (hroom id after hafter)

/-- **Steps are numbered by their places** after every schedule, as long as there is room. -/
theorem after_numbered {moves : List (Move Ticket)} (hfresh : IsFresh moves) (hroom : (after moves).state.HasRoom) :
    (after moves).state.AllNumbered :=
  fun id steps hget => after_keeps numbered_kept hfresh id steps hget (hroom id steps hget)

/-! ## The store -/

theorem Sane.isLog {traffic : Traffic} (h : Sane traffic) (hnumbered : traffic.state.AllNumbered) {id : String}
    {steps : List Step} (hget : traffic.state.steps.get? id = some steps) : IsLog id steps :=
  (h.kept id steps hget).isLog (hnumbered id steps hget)

/-- **A store that only calls have worked on is orderly.** -/
theorem after_orderly {moves : List (Move Ticket)} (hfresh : IsFresh moves) (hroom : (after moves).state.HasRoom) :
    (after moves).state.Orderly := by
  have h := (after_inv hfresh).toSane
  have hnumbered := after_numbered hfresh hroom
  exact
    { paired := h.paired
      named := fun id attempt hget => (h.named id attempt hget).1
      logs := fun id steps hget => h.isLog hnumbered hget
      readable := fun id steps hget => History.exists_ofSteps_iff.2 (h.isLog hnumbered hget)
      distinct := Store.nodup_ids (fun id list hget => (h.kept id list hget).distinct) h.apart
      initial := fun id steps hget => (h.kept id steps hget).initial
      classified := fun id steps hget => (h.kept id steps hget).classified }

/-! ## No failures for reasons of their own -/

theorem view_failure {traffic : Traffic} (h : Sane traffic) (hnumbered : traffic.state.AllNumbered) {id : String}
    {failure : Failure} (hview : traffic.state.view id = .error failure) : failure = .notFound id := by
  rcases Store.view_eq_error hview with ⟨-, rfl⟩ | ⟨⟨attempt, hattempt⟩, hsteps⟩
  · rfl
  · have hpaired := h.paired id
    rw [hattempt] at hpaired
    obtain ⟨steps, hget⟩ := Option.isSome_iff_exists.1 hpaired.symm
    obtain ⟨history, hhistory⟩ := History.exists_ofSteps_iff.2 (h.isLog hnumbered hget)
    rw [Store.stepsOf_of_get? hget, hhistory] at hsteps
    cases hsteps

/-- what is stored can be viewed, unless the numbers of the steps have begun again at zero -/
theorem corrupt_of_view_error {moves : List (Move Ticket)} (hfresh : IsFresh moves) {id : String} {steps : List Step}
    (hget : (after moves).state.steps.get? id = some steps) {failure : Failure}
    (hview : (after moves).state.view id = .error failure) :
    2 ^ 32 ≤ (realSteps steps).length ∧ ∃ flaw, failure = .corrupt id flaw := by
  have hsane := (after_inv hfresh).toSane
  rcases Store.view_eq_error hview with ⟨hnone, -⟩ | ⟨-, hread⟩
  · have hpaired := hsane.paired id
    rw [hnone, hget] at hpaired
    cases hpaired
  · refine ⟨?_, History.ofSteps_eq_error hread⟩
    rw [Store.stepsOf_of_get? hget] at hread
    by_contra hroom
    have hnumbered := after_keeps numbered_kept hfresh id steps hget (Nat.lt_of_not_le hroom)
    obtain ⟨history, hhistory⟩ := History.exists_ofSteps_iff.2 ((hsane.kept id steps hget).isLog hnumbered)
    rw [hread] at hhistory
    cases hhistory

theorem perform_failure {traffic : Traffic} (h : Sane traffic) (hnumbered : traffic.state.AllNumbered) {ticket : Ticket}
    (hnew : ∀ id ∈ ticket.ids, ¬ Spent traffic id) {failure : Failure}
    (hfailure : (ticket.perform traffic.state).1.result = .error failure) : failure.isInternal = false := by
  have hreading : ∀ (id : String) (answer : View → Answer),
      (traffic.state.view id).map answer = .error failure → failure.isInternal = false := by
    intro id answer hmap
    cases hview : traffic.state.view id with
    | ok view =>
      rw [hview] at hmap
      cases hmap
    | error cause =>
      rw [hview] at hmap
      cases hmap
      rw [view_failure h hnumbered hview]
      rfl
  obtain ⟨call, issue⟩ := ticket
  cases call with
  | render id | load id | size id | last id => exact hreading id _ hfailure
  | start questionId userId =>
    cases hcontains : traffic.state.attempts.contains issue.attemptId with
    | false =>
      simp only [Ticket.perform, hcontains, Bool.false_eq_true, ite_false] at hfailure
      cases hfailure
    | true =>
      -- an attempt with this identity would mean that the identity was issued before
      obtain ⟨attempt, hattempt⟩ := Option.isSome_iff_exists.1 hcontains
      exact absurd (h.named _ attempt hattempt).2 (hnew _ List.mem_cons_self)
  | submit id submission expected =>
    cases hview : traffic.state.view id with
    | error cause =>
      simp only [Ticket.perform, Store.decide, hview] at hfailure
      cases hfailure
      rw [view_failure h hnumbered hview]
      rfl
    | ok view =>
      cases hdecide : view.decide submission expected issue.stamp with
      | error cause =>
        simp only [Ticket.perform, Store.decide, hview, hdecide] at hfailure
        cases hfailure
        exact View.decide_failure hdecide
      | ok decision =>
        simp only [Ticket.perform, Store.decide, hview, hdecide] at hfailure
        cases hfailure

/-- **No call fails for reasons of its own.** -/
theorem no_internal_failure {moves : List (Move Ticket)} (hfresh : IsFresh moves) (hroom : (after moves).state.HasRoom)
    {ending : Ending storeInterface Ticket (Report Answer)} (hmem : ending ∈ (after moves).endings) {failure : Failure}
    (hfailure : ending.result.result = .error failure) : failure.isInternal = false := by
  obtain ⟨before, rest, request, next, rfl, -, hjob, -, hanswered⟩ := ending_answered hfresh hmem
  have hinv := after_inv hfresh.of_append
  have hnumbered := after_numbered hfresh.of_append ((after_grows before hfresh).hasRoom hroom)
  generalize (after (before ++ [.advance ending.place])).state = state at hanswered
  generalize ending.result = report at hanswered hfailure
  cases hanswered with
  | performs hcommit => exact perform_failure hinv.toSane hnumbered (fun id hid => hinv.not_spent hjob hid) hfailure
  | refused hrequest hsteps hlast =>
    cases hfailure
    rfl

end Traffic

end AttemptLog
