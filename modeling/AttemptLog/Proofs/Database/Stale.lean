import AttemptLog.Proofs.Database.Served
/-!
Changes that were decided on steps which have changed since.

A store compares the last step of an attempt with the one that a change was decided on. In memory that is the step
which stands last, in a database the one with the highest number (`IsTail`). `commit_stale` says which changes are
refused, and what the refusal tells: in memory each change, in a database each change that is not empty. An empty one
never gets to the database, and so it is accepted whatever it was decided on (`commit_stale_empty`).
-/
namespace AttemptLog

/-- a change that was decided on another last step is refused, and the store stays as it is -/
theorem Store.answer_stale {store : Store} {id expected : String} {steps : List Step} (change : Change)
    (hsteps : store.steps.get? id = some steps) (hstale : expected ≠ lastId steps) :
    answer (.commit id expected change) store = (.error (.conflict expected (lastId steps)), store) := by
  have hcommit : store.commit id expected change = .error (.conflict expected (lastId steps)) := by
    simp only [commit, hsteps]
    exact if_pos (Ne.symm hstale)
  rw [answer, hcommit]
  rfl

namespace Database

/-- the step of an attempt with the highest number -/
structure IsTail (all : List Step) (id : String) (last : Step) : Prop where
  mem : last ∈ all
  owner : last.attemptId = id
  highest : ∀ step ∈ all, step.attemptId = id → step ≠ last → step.number < last.number

/-- tables with these steps, of which no two of one attempt have the same number -/
structure Tables.Stores (tables : Tables) (all : List Step) : Prop where
  documents : tables.documents stepTable = all.map Step.toJson
  apart : all.Pairwise fun s t => s.attemptId = t.attemptId → s.number ≠ t.number

/-- does a step come before another one if the highest number comes first -/
def comesFirst (s t : Step) : Bool := Order.le ⟨"sequence_number", true⟩ s.toJson t.toJson

/-- the steps of an attempt, the one with the highest number first -/
def latestFirst (all : List Step) (id : String) : List Step :=
  (all.filter fun step => decide (step.attemptId = id)).mergeSort comesFirst

theorem mem_latestFirst {all : List Step} {id : String} {step : Step} :
    step ∈ latestFirst all id ↔ step ∈ all ∧ step.attemptId = id := by
  rw [latestFirst, List.mem_mergeSort, List.mem_filter, decide_eq_true_eq]

theorem number_le_of_latestFirst {all rest : List Step} {id : String} {last step : Step}
    (h : latestFirst all id = last :: rest) (hmem : step ∈ rest) : step.number ≤ last.number := by
  have hsorted : (latestFirst all id).Pairwise fun s t => comesFirst s t = true :=
    List.pairwise_mergeSort (fun s t u => Order.le_trans _ s.toJson t.toJson u.toJson)
      (fun s t => Order.le_total _ s.toJson t.toJson) _
  rw [h] at hsorted
  have hle : comesFirst last step = true := List.rel_of_pairwise_cons hsorted hmem
  simpa only [comesFirst, le_toJson, ite_true, decide_eq_true_eq] using hle

namespace Tables.Stores

variable {tables : Tables} {all : List Step} {id : String}

theorem found_latestFirst (h : tables.Stores all) :
    found (tables.documents stepTable) [("attempt_id", id)] (some ⟨"sequence_number", true⟩) (some 1) =
      ((latestFirst all id).map Step.toJson).take 1 := by
  rw [latestFirst, List.map_mergeSort (r := comesFirst) (s := Order.le ⟨"sequence_number", true⟩) fun _ _ _ _ => rfl,
    ← (Tables.holds_of_documents h.documents).filter_eq id]
  rfl

/-- **An attempt that has a step has a last one**, and that is what the database reads as such. -/
theorem lastStep? (h : tables.Stores all) (hsome : ∃ step ∈ all, step.attemptId = id) :
    ∃ last, tables.lastStep? id = some last ∧ IsTail all id last := by
  cases hown : latestFirst all id with
  | nil =>
    obtain ⟨step, hstep⟩ := hsome
    rw [← mem_latestFirst, hown] at hstep
    exact absurd hstep List.not_mem_nil
  | cons last rest =>
    have hlast : last ∈ all ∧ last.attemptId = id := mem_latestFirst.1 (hown ▸ List.mem_cons_self)
    refine ⟨last, ?_, hlast.1, hlast.2, fun step hstep howner hne => ?_⟩
    · rw [Tables.lastStep?, h.found_latestFirst, hown]
      exact (Option.bind_some _ _).trans (step?_toJson last)
    · have hrest : step ∈ rest := by
        have hstored : step ∈ latestFirst all id := mem_latestFirst.2 ⟨hstep, howner⟩
        rw [hown] at hstored
        exact (List.mem_cons.1 hstored).resolve_left hne
      have hsymm : Std.Symm fun s t : Step => s.attemptId = t.attemptId → s.number ≠ t.number :=
        ⟨fun s t hst howners => (hst howners.symm).symm⟩
      have hnumbers : step.number ≠ last.number := h.apart.forall hstep hlast.1 hne (howner.trans hlast.2.symm)
      exact UInt32.lt_of_le_of_ne (number_le_of_latestFirst hown hrest) hnumbers

end Tables.Stores

/-- a change that is not empty and was decided on another last step is not carried out -/
theorem commit_stale_runs {takes : Document → Prop} {tables : Tables} {id expected : String} {last : Step}
    {change : Change} (hlast : tables.lastStep? id = some last) (hstale : expected ≠ last.id)
    (hchange : change.isEmpty = false) :
    (answer (.commit id expected change)).Runs (Executes takes) (.resting tables) (.error (.conflict expected last.id))
      (.resting tables) := by
  have hbody : (changeBody id expected change).run.Runs (Executes takes) (.resting tables)
      (.error (.conflict expected last.id)) (.within tables tables) := by
    refine .bind (Executes.readLast_runs hlast) ?_
    simp only [ExceptT.bindCont, Ne.symm hstale, ite_false]
    exact .done _ _
  rw [answer, if_neg (by simp [hchange])]
  exact Executes.tracked_runs (Executes.transact_aborts rfl hbody)

/-- **A change that comes too late is refused.** Let an attempt have a step, and let a change be decided on a step
that is not its last one.

- A store in memory refuses the change, tells both steps, and stays as it is.
- So does a database that nobody disturbs, unless the change is empty. An empty change is accepted. In both cases the
  tables stay as they are. -/
theorem commit_stale (id expected : String) (change : Change) :
    (∀ (store : Store) (steps : List Step), store.steps.get? id = some steps → expected ≠ Store.lastId steps →
      Store.answer (.commit id expected change) store = (.error (.conflict expected (Store.lastId steps)), store)) ∧
    ∀ (tables : Tables) (deployment : Deployment) (all : List Step),
      tables.Stores all → deployment.Holds (.resting tables) → (∃ step ∈ all, step.attemptId = id) →
        ∃ last, IsTail all id last ∧ (expected ≠ last.id →
          ((answer (.commit id expected change)).run Deployment.answer deployment).1 =
              (if change.isEmpty then .ok () else .error (.conflict expected last.id)) ∧
            ((answer (.commit id expected change)).run Deployment.answer deployment).2.Holds (.resting tables)) := by
  constructor
  · intro store steps hsteps hstale
    exact Store.answer_stale change hsteps hstale
  · intro tables deployment all hstores hholds hsome
    obtain ⟨last, hlast, htail⟩ := hstores.lastStep? hsome
    refine ⟨last, htail, fun hstale => ?_⟩
    cases hchange : change.isEmpty with
    | true =>
      rw [answer, if_pos hchange]
      exact ⟨rfl, hholds⟩
    | false => exact (commit_stale_runs hlast hstale hchange).run_of_follows answer_follows hholds

/-- an attempt with a first step and one after it -/
def twoSteps : List Step :=
  let first := (History.start "attempt" ⟨"first", .year2024⟩).current
  [first, { first with id := "second", number := 1 }]

def twoStepStore : Store := ⟨Keyed.empty, Keyed.empty.insert "attempt" twoSteps⟩

def twoStepTables : Tables := Keyed.empty.insert stepTable (twoSteps.map Step.toJson)

theorem twoStepTables_stores : twoStepTables.Stores twoSteps where
  documents := by simp [twoStepTables, Tables.documents]
  apart := by decide

theorem twoSteps_tail {last : Step} (h : IsTail twoSteps "attempt" last) : last.id = "second" := by
  have hmem := h.mem
  rw [twoSteps, List.mem_pair] at hmem
  rcases hmem with rfl | rfl
  · exact absurd (h.highest { (History.start "attempt" ⟨"first", .year2024⟩).current with id := "second", number := 1 }
      (by decide) rfl (by decide)) (by decide)
  · rfl

/-- somebody has added a second step since the change was decided on -/
theorem commit_stale_overtaken :
    Store.answer (.commit "attempt" "first" ⟨.reverted, some "draft", none⟩) twoStepStore =
        (.error (.conflict "first" "second"), twoStepStore) ∧
      ((answer (.commit "attempt" "first" ⟨.reverted, some "draft", none⟩)).run Deployment.answer
        ⟨.resting twoStepTables, []⟩).1 = .error (.conflict "first" "second") := by
  obtain ⟨hmemory, hdatabase⟩ := commit_stale "attempt" "first" ⟨.reverted, some "draft", none⟩
  refine ⟨hmemory twoStepStore twoSteps (Keyed.get?_insert _ _ _ _) (by decide), ?_⟩
  obtain ⟨last, htail, hstale⟩ := hdatabase twoStepTables ⟨.resting twoStepTables, []⟩ twoSteps twoStepTables_stores
    ⟨rfl, rfl, rfl⟩ (by decide)
  have hlast := twoSteps_tail htail
  have hrefused := (hstale (by simp [hlast])).1
  rw [hlast] at hrefused
  exact hrefused

/-- an empty change is accepted although somebody has added a second step since it was decided on -/
theorem commit_stale_empty :
    ¬ ∀ (tables : Tables) (deployment : Deployment) (all : List Step) (id : String),
      tables.Stores all → deployment.Holds (.resting tables) → (∃ step ∈ all, step.attemptId = id) →
        ∃ last, IsTail all id last ∧ ∀ (expected : String) (change : Change), expected ≠ last.id →
          ((answer (.commit id expected change)).run Deployment.answer deployment).1 =
              .error (.conflict expected last.id) := by
  intro hlaw
  obtain ⟨last, htail, hrefused⟩ := hlaw twoStepTables ⟨.resting twoStepTables, []⟩ twoSteps "attempt"
    twoStepTables_stores ⟨rfl, rfl, rfl⟩ (by decide)
  have hlast := twoSteps_tail htail
  cases hrefused "first" ⟨.unchanged, none, none⟩ (by simp [hlast])

end Database

end AttemptLog
