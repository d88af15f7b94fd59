import AttemptLog.Proofs.History.Effect
/-!
Versions of the stored steps of one attempt.

`WellKept` says what holds of each version, and `Continues` how a later version comes from an earlier one: the earlier
real steps are a prefix of the later ones, steps that were not there before carry identities that were not spent yet,
and a version that still has the earlier draft is the earlier version. The relation composes (`Continues.trans`), and
`Continues.eq_of_lastId` says that two versions with the same last step are the same, although a last step can come
back after a draft was there in between.

The numbers of the steps are a part of their own (`Numbered`), since they are right only as long as there are fewer
than 2^32 real steps.
-/
namespace AttemptLog

/-- the first step of an attempt: nothing was done yet -/
structure Step.IsInitial (step : Step) : Prop where
  real : step.isDraft = false
  state : step.state = .todo
  response : step.response = Keyed.empty
  number : step.number = 0

/-- is the state of a draft, or of a real step that closes nothing and is no verdict, that of its response -/
def Step.IsClassified (step : Step) : Prop :=
  step.isDraft = true ∨ step.state = .todo ∨ step.state = .complete → step.state = .ofResponse step.response

theorem Step.IsInitial.isClassified {step : Step} (h : step.IsInitial) : step.IsClassified := by
  intro _
  rw [h.state, h.response]
  rfl

/-- what holds of the stored steps of an attempt besides their numbers -/
structure WellKept (attemptId : String) (steps : List Step) : Prop where
  initial : ∃ first rest, steps = first :: rest ∧ first.IsInitial
  owned : ∀ step ∈ steps, step.attemptId = attemptId
  distinct : (steps.map Step.id).Nodup
  draftLast : ∀ step ∈ steps.dropLast, step.isDraft = false
  classified : ∀ step ∈ steps, step.IsClassified

/-- does each step carry its place as its number -/
def Numbered (steps : List Step) : Prop := ∀ place (h : place < steps.length), steps[place].number.toNat = place

/-- does a later version of the stored steps come from an earlier one, at which some identities were spent -/
structure Continues (spent : String → Prop) (before after : List Step) : Prop where
  real : realSteps before <+: realSteps after
  added : ∀ step ∈ after, step ∈ before ∨ ¬ spent step.id
  draft : ∀ step ∈ before, step.isDraft = true → step ∈ after → after = before

namespace WellKept

variable {attemptId : String} {steps : List Step}

theorem ne_nil (h : WellKept attemptId steps) : steps ≠ [] := by
  obtain ⟨first, rest, rfl, -⟩ := h.initial
  exact List.cons_ne_nil _ _

theorem realSteps (h : WellKept attemptId steps) : WellKept attemptId (realSteps steps) where
  initial := by
    obtain ⟨first, rest, rfl, hfirst⟩ := h.initial
    refine ⟨first, AttemptLog.realSteps rest, ?_, hfirst⟩
    simp [AttemptLog.realSteps, hfirst.real]
  owned step hmem := h.owned step (mem_realSteps.1 hmem).1
  distinct := h.distinct.sublist (List.filter_sublist.map Step.id)
  draftLast step hmem := (mem_realSteps.1 (List.dropLast_subset _ hmem)).2
  classified step hmem := h.classified step (mem_realSteps.1 hmem).1

theorem append (h : WellKept attemptId steps) (hreal : ∀ step ∈ steps, step.isDraft = false) {step : Step}
    (howner : step.attemptId = attemptId) (hnew : ∀ other ∈ steps, other.id ≠ step.id) (hstep : step.IsClassified) :
    WellKept attemptId (steps ++ [step]) where
  initial := by
    obtain ⟨first, rest, rfl, hfirst⟩ := h.initial
    exact ⟨first, rest ++ [step], rfl, hfirst⟩
  owned other hmem := by
    rcases List.mem_append.1 hmem with hmem | hmem
    · exact h.owned other hmem
    · rw [List.mem_singleton.1 hmem, howner]
  distinct := by
    rw [List.map_append, List.nodup_append]
    refine ⟨h.distinct, List.nodup_singleton _, ?_⟩
    intro a ha b hb hab
    obtain ⟨other, hother, rfl⟩ := List.mem_map.1 ha
    rw [List.map_singleton, List.mem_singleton] at hb
    exact hnew other hother (hab.trans hb)
  draftLast other hmem := by
    rw [List.dropLast_concat] at hmem
    exact hreal other hmem
  classified other hmem := by
    rcases List.mem_append.1 hmem with hmem | hmem
    · exact h.classified other hmem
    · rwa [List.mem_singleton.1 hmem]

theorem initial_only {step : Step} (howner : step.attemptId = attemptId) (h : step.IsInitial) :
    WellKept attemptId [step] where
  initial := ⟨step, [], rfl, h⟩
  owned other hmem := by rw [List.mem_singleton.1 hmem, howner]
  distinct := List.nodup_singleton _
  draftLast other hmem := by simp at hmem
  classified other hmem := by
    rw [List.mem_singleton.1 hmem]
    exact h.isClassified

theorem real_of_getLast? (h : WellKept attemptId steps) {last : Step} (hlast : steps.getLast? = some last)
    (hreal : last.isDraft = false) : ∀ step ∈ steps, step.isDraft = false := by
  intro step hmem
  rw [← List.dropLast_concat_getLast h.ne_nil] at hmem
  rw [List.getLast?_eq_some_getLast h.ne_nil, Option.some.injEq] at hlast
  rcases List.mem_append.1 hmem with hmem | hmem
  · exact h.draftLast step hmem
  · rw [List.mem_singleton.1 hmem, hlast, hreal]

theorem getLast?_of_isDraft (h : WellKept attemptId steps) {step : Step} (hmem : step ∈ steps)
    (hdraft : step.isDraft = true) : steps.getLast? = some step := by
  rw [← List.dropLast_concat_getLast h.ne_nil, List.mem_append, List.mem_singleton] at hmem
  rcases hmem with hmem | rfl
  · rw [h.draftLast step hmem] at hdraft
    cases hdraft
  · exact List.getLast?_eq_some_getLast h.ne_nil

theorem eq_of_id {a b : Step} (h : WellKept attemptId steps) (ha : a ∈ steps) (hb : b ∈ steps) (hid : a.id = b.id) :
    a = b :=
  List.inj_on_of_nodup_map h.distinct ha hb hid

end WellKept

/-! ## From version to version -/

namespace Continues

theorem refl (spent : String → Prop) (steps : List Step) : Continues spent steps steps :=
  ⟨List.prefix_refl _, fun _ hmem => .inl hmem, fun _ _ _ _ => rfl⟩

theorem trans {spent later : String → Prop} {a b c : List Step} (hab : Continues spent a b)
    (hbc : Continues later b c) (hmono : ∀ id, spent id → later id) (ha : ∀ step ∈ a, spent step.id) :
    Continues spent a c where
  real := hab.real.trans hbc.real
  added step hmem := by
    rcases hbc.added step hmem with hmem | hnew
    · exact hab.added step hmem
    · exact .inr fun hspent => hnew (hmono _ hspent)
  draft step hmem hdraft hmem' := by
    rcases hbc.added step hmem' with hstill | hnew
    · obtain rfl := hab.draft step hmem hdraft hstill
      exact hbc.draft step hmem hdraft hmem'
    · exact absurd (hmono _ (ha step hmem)) hnew

/-- **The last step tells the version.** If a later version ends in a step with the identity of the last step of an
earlier one, it is that version. -/
theorem eq_of_lastId {spent : String → Prop} {attemptId : String} {a b : List Step} (h : Continues spent a b)
    (ha : WellKept attemptId a) (hb : WellKept attemptId b) (hspent : ∀ step ∈ a, spent step.id)
    (hid : Store.lastId a = Store.lastId b) : a = b := by
  obtain ⟨s, hs⟩ : ∃ s, a.getLast? = some s := ⟨_, List.getLast?_eq_some_getLast ha.ne_nil⟩
  obtain ⟨t, ht⟩ : ∃ t, b.getLast? = some t := ⟨_, List.getLast?_eq_some_getLast hb.ne_nil⟩
  have hst : s.id = t.id := by simpa [Store.lastId, hs, ht] using hid
  have hsa : s ∈ a := List.mem_of_getLast? hs
  have htb : t ∈ b := List.mem_of_getLast? ht
  -- the later last step was there before, since its identity was spent
  have hta : t ∈ a := (h.added t htb).resolve_right fun hnew => hnew (hst ▸ hspent s hsa)
  obtain rfl : s = t := ha.eq_of_id hsa hta hst
  cases hdraft : s.isDraft with
  | true => exact (h.draft s hsa hdraft htb).symm
  | false =>
    have hfront := h.real
    rw [realSteps_eq_self (ha.real_of_getLast? hs hdraft), realSteps_eq_self (hb.real_of_getLast? ht hdraft)] at hfront
    obtain ⟨rest, rfl⟩ := hfront
    cases rest with
    | nil => exact (List.append_nil a).symm
    | cons head tail =>
      -- a step that is both in the front part and the last one of what follows would be there twice
      have hrest : s ∈ head :: tail := by
        rw [List.getLast?_append_of_ne_nil _ (List.cons_ne_nil _ _)] at ht
        exact List.mem_of_getLast? ht
      have hdistinct := hb.distinct
      rw [List.map_append] at hdistinct
      exact absurd (List.mem_map_of_mem hrest) fun hmem =>
        List.disjoint_of_nodup_append hdistinct (List.mem_map_of_mem hsa) hmem

end Continues

/-! ## What a submission does to a version -/

namespace History.Effect

variable {history : History} {stamp : Stamp} {decision : Decision}

theorem real_prefix (h : Effect history stamp decision) (hmarked : history.Marked) :
    AttemptLog.realSteps history.steps <+: AttemptLog.realSteps decision.history.steps := by
  rcases h.steps_eq with ⟨-, -, hhistory⟩ | ⟨-, hsteps⟩
  · rw [hhistory]
  · rw [hmarked.realSteps_steps, hsteps, realSteps_append, realSteps_eq_self hmarked.real]
    exact List.prefix_append _ _

theorem continues (h : Effect history stamp decision) (hmarked : history.Marked) {spent : String → Prop}
    (hspent : ∀ step ∈ history.steps, spent step.id) (hnew : ¬ spent stamp.id) :
    Continues spent history.steps decision.history.steps := by
  rcases h.steps_eq with ⟨-, -, hhistory⟩ | ⟨-, hsteps⟩
  · rw [hhistory]
    exact .refl _ _
  · have hmem : ∀ step ∈ decision.history.steps, step ∈ history.realSteps ∨ step.id = stamp.id := by
      intro step hmem
      rw [hsteps, List.mem_append, Option.mem_toList] at hmem
      exact hmem.imp_right fun happended => (h.appended_spec happended).1
    refine ⟨h.real_prefix hmarked, fun step hstep => ?_, fun step hstep hdraft hstep' => ?_⟩
    · rcases hmem step hstep with hstep | hid
      · exact .inl (List.mem_append_left _ hstep)
      · exact .inr (hid ▸ hnew)
    · rcases hmem step hstep' with hreal | hid
      · rw [hmarked.real step hreal] at hdraft
        cases hdraft
      · exact absurd (hid ▸ hspent step hstep) hnew

theorem wellKept (h : Effect history stamp decision) (hmarked : history.Marked)
    (hkept : WellKept history.attemptId history.steps) (hnew : ∀ step ∈ history.steps, step.id ≠ stamp.id) :
    WellKept history.attemptId decision.history.steps := by
  rcases h.steps_eq with ⟨-, -, hhistory⟩ | ⟨-, hsteps⟩
  · rwa [hhistory]
  · have hreal := hkept.realSteps
    rw [hmarked.realSteps_steps] at hreal
    rw [hsteps]
    cases happended : decision.change.appended with
    | none => simpa using hreal
    | some step =>
      obtain ⟨hid, howner, -, hstate⟩ := h.appended_spec happended
      refine hreal.append hmarked.real howner (fun other hmem => ?_) hstate
      rw [hid]
      exact hnew other (List.mem_append_left _ hmem)

end History.Effect

/-! ## Numbers -/

theorem WellKept.isLog {attemptId : String} {steps : List Step} (h : WellKept attemptId steps)
    (hnumbered : Numbered steps) : IsLog attemptId steps where
  nonempty := h.ne_nil
  owned := h.owned
  numbered := hnumbered
  draftLast place hplace hdraft := by
    have hlast : place + 1 = steps.length := by
      by_contra hne
      have hmem : steps[place] ∈ steps.dropLast := by
        refine List.mem_iff_getElem.2 ⟨place, by rw [List.length_dropLast]; omega, ?_⟩
        rw [List.getElem_dropLast]
      rw [h.draftLast _ hmem] at hdraft
      cases hdraft
    refine ⟨Nat.pos_of_ne_zero fun hzero => ?_, hlast⟩
    subst hzero
    obtain ⟨first, rest, rfl, hfirst⟩ := h.initial
    rw [List.getElem_cons_zero, hfirst.real] at hdraft
    cases hdraft

theorem Numbered.singleton {step : Step} (h : step.number = 0) : Numbered [step] := by
  intro place hplace
  obtain rfl : place = 0 := Nat.lt_one_iff.1 hplace
  rw [List.getElem_cons_zero, h]
  rfl

theorem Numbered.of_prefix {a b : List Step} (h : Numbered b) (hfront : a <+: b) : Numbered a := by
  intro place hplace
  rw [hfront.getElem hplace]
  exact h place _

theorem Numbered.append {steps : List Step} (h : Numbered steps) {step : Step}
    (hstep : step.number.toNat = steps.length) : Numbered (steps ++ [step]) := by
  intro place hplace
  rw [List.length_append, List.length_singleton] at hplace
  by_cases hlast : place < steps.length
  · rw [List.getElem_append_left hlast]
    exact h place hlast
  · obtain rfl : place = steps.length := by omega
    simpa using hstep

theorem Numbered.pairwise {steps : List Step} (h : Numbered steps) : steps.Pairwise fun a b => a.number < b.number := by
  rw [List.pairwise_iff_getElem]
  intro i j hi hj hlt
  rw [UInt32.lt_iff_toNat_lt, h i hi, h j hj]
  exact hlt

namespace History

theorem toNat_number_current {history : History} (h : Numbered history.realSteps) :
    history.current.number.toNat + 1 = history.realSteps.length := by
  have hplace := h history.earlier.length (by simp [History.realSteps])
  simpa [History.realSteps] using hplace

/-- the next number is the number of real steps, as long as that is less than 2^32 -/
theorem toNat_number_following {history : History} (h : Numbered history.realSteps)
    (hsmall : history.realSteps.length < 2 ^ 32) :
    (history.current.number + 1).toNat = history.realSteps.length := by
  rw [UInt32.toNat_add, UInt32.toNat_one, toNat_number_current h]
  exact Nat.mod_eq_of_lt hsmall

/-- no real step has the next number yet -/
theorem number_ne_following {history : History} (h : Numbered history.realSteps)
    (hsmall : history.realSteps.length < 2 ^ 32) {step : Step} (hmem : step ∈ history.realSteps) :
    step.number ≠ history.current.number + 1 := by
  obtain ⟨place, hplace, rfl⟩ := List.getElem_of_mem hmem
  intro hsame
  have hnumber := h place hplace
  rw [hsame, toNat_number_following h hsmall] at hnumber
  omega

theorem Effect.numbered {history : History} {stamp : Stamp} {decision : Decision} (h : Effect history stamp decision)
    (hnumbered : Numbered history.steps) (hsmall : history.realSteps.length < 2 ^ 32) :
    Numbered decision.history.steps := by
  rcases h.steps_eq with ⟨-, -, hhistory⟩ | ⟨-, hsteps⟩
  · rwa [hhistory]
  · have hreal : Numbered history.realSteps := hnumbered.of_prefix (List.prefix_append _ _)
    rw [hsteps]
    cases happended : decision.change.appended with
    | none => simpa using hreal
    | some step =>
      obtain ⟨-, -, hnumber, -⟩ := h.appended_spec happended
      refine hreal.append ?_
      rw [hnumber, toNat_number_following hreal hsmall]

end History

end AttemptLog
