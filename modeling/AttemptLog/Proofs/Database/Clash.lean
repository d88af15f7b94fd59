import AttemptLog.Proofs.Database.Tables
/-!
Transactions that get into each other's way.

Two transactions clash if they delete the same document, or insert documents that may not stand in one table. That a
transaction reads what another one writes is no clash. Whatever changes one history of an attempt takes away its draft
or adds the step with the next number, and so two transactions that change the same history always clash
(`Claims.clashes`).
-/
namespace AttemptLog.Database

/-- the document that a command takes out of tables, with its table -/
def Command.takes? (tables : Tables) : Command → Option (String × Document)
  | .delete table filter => ((tables.documents table).find? filter.fits).map (Prod.mk table)
  | _ => none

/-- the document that a command puts into a table -/
def Command.puts? : Command → Option (String × Document)
  | .insert table document => some (table, document)
  | _ => none

/-- the documents that commands take out of tables, one command after another -/
def takenFrom : Tables → List Command → List (String × Document)
  | _, [] => []
  | tables, command :: rest => (command.takes? tables).toList ++ takenFrom (tables.after command) rest

namespace Transaction

def deleted (transaction : Transaction) : List (String × Document) := takenFrom transaction.snapshot transaction.writes

def inserted (transaction : Transaction) : List (String × Document) := transaction.writes.filterMap Command.puts?

/-- do two transactions delete the same document, or insert documents that may not stand in one table -/
def Clashes (a b : Transaction) : Prop :=
  (∃ document ∈ a.deleted, document ∈ b.deleted) ∨
    ∃ table s t, (table, s) ∈ a.inserted ∧ (table, t) ∈ b.inserted ∧ collide s t = true

end Transaction

theorem Tables.Holds.find?_eq {tables : Tables} {stepsOf : String → List Step} (h : tables.Holds stepsOf) {id : String}
    (hdistinct : ((stepsOf id).map Step.id).Nodup) {step : Step} (hstep : step ∈ stepsOf id) :
    (tables.documents stepTable).find? (Filter.fits [("_id", step.id), ("attempt_id", id)]) = some step.toJson := by
  obtain ⟨all, hall, hsteps⟩ := h
  rw [← hsteps] at hstep hdistinct
  rw [hall, List.find?_map]
  cases hfound : all.find? (Filter.fits [("_id", step.id), ("attempt_id", id)] ∘ Step.toJson) with
  | none =>
    obtain ⟨hmem, howner⟩ : step ∈ all ∧ step.attemptId = id := by simpa using hstep
    have hnone := List.find?_eq_none.1 hfound step hmem
    simp [fits_step, howner] at hnone
  | some other =>
    have hother : other.id = step.id ∧ other.attemptId = id := by
      simpa [fits_step] using List.find?_some hfound
    have hmem : other ∈ all.filter fun step => decide (step.attemptId = id) :=
      List.mem_filter.2 ⟨List.mem_of_find?_eq_some hfound, decide_eq_true hother.2⟩
    rw [Option.map_some, List.inj_on_of_nodup_map hdistinct hmem hstep hother.1]

/-- steps that are added to one history may not stand in one table -/
theorem collide_of_claimsEnd {history : History} {a b : Change} (ha : history.ClaimsEnd a) (hb : history.ClaimsEnd b)
    {s t : Step} (hs : a.appended = some s) (ht : b.appended = some t) : collide s.toJson t.toJson = true := by
  obtain ⟨hsowner, hsnumber⟩ := ha.appended s hs
  obtain ⟨htowner, htnumber⟩ := hb.appended t ht
  simp [collide_toJson, hsowner, hsnumber, htowner, htnumber]

/-- does a transaction carry out a change that claims the end of a history, and did it see the history -/
structure Transaction.Claims (transaction : Transaction) (history : History) : Prop where
  writes : ∃ expected change, transaction.writes = writesOf (.commit history.attemptId expected change) ∧
    history.ClaimsEnd change
  saw : ∃ stepsOf, transaction.snapshot.Holds stepsOf ∧ stepsOf history.attemptId = history.steps

namespace Transaction.Claims

variable {a b transaction : Transaction} {history : History}

theorem deleted (h : transaction.Claims history) (hdistinct : (history.steps.map Step.id).Nodup) {draft : Step}
    (hdraft : history.draft = some draft) : (stepTable, draft.toJson) ∈ transaction.deleted := by
  obtain ⟨expected, change, hwrites, hclaims⟩ := h.writes
  obtain ⟨stepsOf, hholds, hsteps⟩ := h.saw
  have hstep : draft ∈ stepsOf history.attemptId := by simp [hsteps, History.steps, hdraft]
  have hfound := hholds.find?_eq (hsteps ▸ hdistinct) hstep
  rw [Transaction.deleted, hwrites, writesOf, hclaims.removed, hdraft]
  simp [takenFrom, Command.takes?, hfound]

theorem inserted (h : transaction.Claims history) (hdraft : history.draft = none) :
    ∃ (change : Change) (step : Step), history.ClaimsEnd change ∧ change.appended = some step ∧
      (stepTable, step.toJson) ∈ transaction.inserted := by
  obtain ⟨expected, change, hwrites, hclaims⟩ := h.writes
  obtain ⟨step, happended⟩ := Option.isSome_iff_exists.1 (hclaims.adds hdraft)
  refine ⟨change, step, hclaims, happended, ?_⟩
  rw [Transaction.inserted, hwrites, writesOf, happended]
  simp [List.filterMap_append, Command.puts?]

/-- **Two transactions that change the same history clash.** -/
theorem clashes (ha : a.Claims history) (hb : b.Claims history) (hdistinct : (history.steps.map Step.id).Nodup) :
    a.Clashes b := by
  cases hdraft : history.draft with
  | some draft => exact .inl ⟨_, ha.deleted hdistinct hdraft, hb.deleted hdistinct hdraft⟩
  | none =>
    obtain ⟨changeA, s, hclaimsA, hs, hinsertedA⟩ := ha.inserted hdraft
    obtain ⟨changeB, t, hclaimsB, ht, hinsertedB⟩ := hb.inserted hdraft
    exact .inr ⟨stepTable, _, _, hinsertedA, hinsertedB, collide_of_claimsEnd hclaimsA hclaimsB hs ht⟩

end Transaction.Claims

end AttemptLog.Database
