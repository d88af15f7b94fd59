import AttemptLog.Proofs.Database.ExactlyOnce
/-!
What a client's transactions make of the tables.

As long as others do not write, the tables are those at the start after the writes of the ledger, none of which came
to nothing (`Cluster.Tallies`). One step keeps this (`Tallies.moves`), and so does a run (`Tallies.runs`).
`tables_of_ledger` says what it means for a query that writes.
-/
namespace AttemptLog.Database

namespace Cluster

variable {tables : Tables} {cluster next : Cluster}

/-- what can happen while the client does not look, if others do not write -/
def Alone (cluster next : Cluster) : Prop := Happens cluster next ∧ cluster.Moves next

/-- the client's questions, and what happens before each, if others do not write -/
def AnswersAlone : Behaviour interface Cluster := fun request cluster reply next =>
  ∃ between, Relation.ReflTransGen Alone cluster between ∧ Exchange request between reply next

/-- did the writes of the ledger, all of which changed something, lead from some tables to those that there are -/
structure Tallies (tables : Tables) (cluster : Cluster) : Prop where
  takes : tables.takes (cluster.ledger.flatMap Transaction.writes) = true
  tables : cluster.tables = (cluster.ledger.flatMap Transaction.writes).foldl Tables.after tables

theorem Tallies.moves (h : Tallies tables cluster) (hmoves : cluster.Moves next) : Tallies tables next := by
  cases hmoves with
  | rests htables hledger =>
    constructor
    · rw [hledger]
      exact h.takes
    · rw [htables, hledger]
      exact h.tables
  | applies htakes htables hledger =>
    constructor
    · rw [hledger, List.flatMap_append, Tables.takes_append, h.takes, ← h.tables]
      simpa using htakes
    · rw [htables, hledger, List.flatMap_append, List.foldl_append, ← h.tables]
      simp

theorem Tallies.later (h : Tallies tables cluster) (hlater : Relation.ReflTransGen Alone cluster next) :
    Tallies tables next := by
  induction hlater with
  | refl => exact h
  | tail _ hlast ih => exact ih.moves hlast.2

/-- **The tables are those after the writes of the ledger**, whatever the client does and whatever fails. -/
theorem Tallies.runs {α : Type} {program : Program interface α} {value : α} (h : Tallies tables cluster)
    (hruns : program.Runs AnswersAlone cluster value next) : Tallies tables next := by
  induction hruns with
  | done value state => exact h
  | ask hanswer hrest ih =>
    obtain ⟨between, hbetween, hexchange⟩ := hanswer
    exact ih ((h.later hbetween).moves hexchange.moves)

theorem start_tallies (tables : Tables) : Tallies tables (start tables) := ⟨rfl, rfl⟩

theorem happens_of_alone (h : Relation.ReflTransGen Alone cluster next) : Relation.ReflTransGen Happens cluster next :=
  Relation.ReflTransGen.mono (fun _ _ halone => halone.1) _ _ h

theorem AnswersAlone.answers {request : Request} {reply : request.Reply} (h : AnswersAlone request cluster reply next) :
    Answers request cluster reply next := by
  obtain ⟨between, hbetween, hexchange⟩ := h
  exact ⟨between, happens_of_alone hbetween, hexchange⟩

end Cluster

/-- **The writes of a query are in the tables once or not at all**, if others do not write: all of them went through,
or there is nothing of them. They are there if the client is told that the query succeeded, and not there if it is
told of a failure, unless it is a failure of the commit whose labels leave that open. -/
theorem tables_of_ledger {query : Query} (hwrites : writesOf query ≠ []) {tables : Tables}
    {result : Except Failure query.Answer} {after later : Cluster}
    (hrun : (answer query).Runs Cluster.AnswersAlone (Cluster.start tables) result after)
    (hlater : Relation.ReflTransGen Cluster.Alone after later) :
    (later.tables = tables ∨ tables.takes (writesOf query) = true ∧
      later.tables = (writesOf query).foldl Tables.after tables) ∧
    (∀ value, result = .ok value → later.tables = (writesOf query).foldl Tables.after tables) ∧
    ∀ failure, result = .error failure →
      later.tables = tables ∨ ∃ labels, failure = failureAt .commitTransaction labels ∧ transientLabel ∉ labels := by
  have htallies := ((Cluster.start_tallies tables).runs hrun).later hlater
  have houtcome := answer_ensures query hwrites (quiet_start tables) result after
    (hrun.mono fun _ _ _ _ hanswer => hanswer.answers)
  have hend := Outcome.stays.later (Cluster.happens_of_alone hlater) houtcome
  have hnone : later.ledger = [] → later.tables = tables := by
    intro hledger
    rw [htallies.tables, hledger]
    rfl
  have hone : ∀ transaction, later.ledger = [transaction] → transaction.Fulfils query →
      tables.takes (writesOf query) = true ∧ later.tables = (writesOf query).foldl Tables.after tables := by
    intro transaction hledger hfulfils
    have htakes := htallies.takes
    have htables := htallies.tables
    rw [hledger, List.flatMap_singleton, hfulfils.writes] at htakes htables
    exact ⟨htakes, htables⟩
  refine ⟨?_, ?_, ?_⟩
  · obtain ⟨hmost, hall⟩ := hend.ledger
    match hledger : later.ledger with
    | [] => exact .inl (hnone hledger)
    | [transaction] => exact .inr (hone transaction hledger (hall transaction (by simp [hledger])))
    | _ :: _ :: _ => simp [hledger] at hmost
  · rintro value rfl
    cases hend with
    | done hfulfils happlied => exact (hone _ happlied.ledger hfulfils).2
  · rintro failure rfl
    cases hend with
    | undone failure hquiet => exact .inl (hnone hquiet.ledger)
    | unknown hlabels hsent => exact .inr ⟨_, rfl, hlabels⟩

end AttemptLog.Database
