import AttemptLog.Proofs.Database.Standing
/-!
What the bodies of transactions do.

A body comes to a value and to a transaction that is as it says, or it fails and leaves nothing that will be applied
(`BodyDone`). The body of a query that writes makes all its writes, on tables with the last step that the query was
decided on (`createBody_ensures`, `changeBody_ensures`).
-/
namespace AttemptLog.Database

/-- the commands by which a query writes -/
def writesOf : Query → List Command
  | .create attempt first => [.insert attemptTable attempt.toJson, .insert stepTable first.toJson]
  | .commit id _ change =>
    (change.removed.map fun removed => .delete stepTable [("_id", removed), ("attempt_id", id)]).toList ++
      (change.appended.map fun step => .insert stepTable step.toJson).toList
  | _ => []

/-- the last step of an attempt as tables hold it -/
def Tables.lastStep? (tables : Tables) (id : String) : Option Step :=
  (found (tables.documents stepTable) [("attempt_id", id)] (some ⟨"sequence_number", true⟩) (some 1)).head?.bind step?

/-- did a transaction make all writes of a query, and see the last step that the query was decided on -/
structure Transaction.Fulfils (transaction : Transaction) (query : Query) : Prop where
  writes : transaction.writes = writesOf query
  expected : ∀ id expected change, query = .commit id expected change →
    ∃ last, transaction.snapshot.lastStep? id = some last ∧ last.id = expected

/-! ## Commands of a body -/

/-- what a part of a transaction's body comes to: a value and a transaction with some property, or nothing that will be
applied -/
def BodyDone {α : Type} (property : α → Transaction → Prop) : Except Failure α → Cluster → Prop
  | .ok value, cluster => ∃ transaction, property value transaction ∧ cluster.Held transaction
  | .error _, cluster => cluster.Quiet

/-- a command of a body that failed leaves nothing that will be applied -/
theorem work_error {between later : Cluster} (hquiet : between.Quiet) {place : Place} {command : Command}
    {fault : Fault} (hplace : place ≠ .outside) (hwork : command.isWork = true) {reply : Except Fault command.Reply}
    (hreply : reply = .error fault) (hexchange : Exchange (.send place command) between reply later) : later.Quiet := by
  cases hexchange with
  | first hwork' hphase => exact ⟨rfl, hquiet.doubtful, hquiet.ledger⟩
  | inside hwork' hphase => exact ⟨rfl, hquiet.doubtful, hquiet.ledger⟩
  | commitsNothing hphase => cases hwork
  | commits hphase => cases hwork
  | confirms hphase => cases hwork
  | commitFails hphase => cases hwork
  | aborts reply => cases hwork
  | outside hwork' reply => exact absurd rfl hplace
  | workFails hplace' hwork' hphase =>
    refine ⟨?_, hquiet.doubtful, hquiet.ledger⟩
    have hunsent := hquiet.unsent
    generalize between.phase = before at hphase hunsent
    cases hphase with
    | lost hbefore => rfl
    | left transaction hbefore hdropped hlabels => rfl
    | late hbefore => exact hunsent

theorem first_ok {between later : Cluster} (hquiet : between.Quiet) {command : Command} (hwork : command.isWork = true)
    {value : command.Reply} {reply : Except Fault command.Reply} (hreply : reply = .ok value)
    (hexchange : Exchange (.send .first command) between reply later) :
    (execute between.tables command).1 = .ok value ∧ later.Held ((Transaction.begun between.tables).after command) := by
  cases hexchange with
  | first hwork' hphase => exact ⟨hreply, .inl rfl, hquiet.doubtful, hquiet.ledger⟩
  | workFails hplace hwork' hphase => cases hreply
  | commitsNothing hphase => cases hwork
  | commits hphase => cases hwork
  | confirms hphase => cases hwork
  | commitFails hphase => cases hwork
  | aborts reply => cases hwork

theorem inside_ok {between later : Cluster} {transaction : Transaction} (hheld : between.Held transaction)
    {command : Command} (hwork : command.isWork = true) {value : command.Reply} {reply : Except Fault command.Reply}
    (hreply : reply = .ok value) (hexchange : Exchange (.send .inside command) between reply later) :
    (execute transaction.tables command).1 = .ok value ∧ later.Held (transaction.after command) := by
  cases hexchange with
  | @inside _ _ other hwork' hphase =>
    have hsame := hheld.phase
    rw [hphase] at hsame
    simp only [Phase.active.injEq, reduceCtorEq, or_false] at hsame
    subst hsame
    exact ⟨hreply, .inl rfl, hheld.doubtful, hheld.ledger⟩
  | workFails hplace hwork' hphase => cases hreply
  | commitsNothing hphase => cases hwork
  | commits hphase => cases hwork
  | confirms hphase => cases hwork
  | commitFails hphase => cases hwork
  | aborts reply => cases hwork

section Bodies

variable {α β : Type} {cluster : Cluster} {stage : Stage} {command : Command}

theorem first_ensures (h : cluster.Quiet ∧ cluster.phase = .idle) (hwork : command.isWork = true) :
    (send stage .first command).run.Ensures Cluster.Answers cluster (BodyDone fun value transaction =>
      ∃ tables, (execute tables command).1 = .ok value ∧ transaction = (Transaction.begun tables).after command) := by
  refine ensures_send Cluster.idle_stays h ?_ ?_
  · intro between value later hbetween hexchange
    obtain ⟨hvalue, hheld⟩ := first_ok hbetween.1 hwork rfl hexchange
    exact ⟨_, ⟨between.tables, hvalue, rfl⟩, hheld⟩
  · intro between fault later hbetween hexchange
    exact work_error hbetween.1 (by decide) hwork rfl hexchange

theorem inside_ensures {transaction : Transaction} (h : cluster.Held transaction) (hwork : command.isWork = true) :
    (send stage .inside command).run.Ensures Cluster.Answers cluster (BodyDone fun value next =>
      (execute transaction.tables command).1 = .ok value ∧ next = transaction.after command) := by
  refine ensures_send (Cluster.held_stays transaction) h ?_ ?_
  · intro between value later hbetween hexchange
    obtain ⟨hvalue, hheld⟩ := inside_ok hbetween hwork rfl hexchange
    exact ⟨_, ⟨hvalue, rfl⟩, hheld⟩
  · intro between fault later hbetween hexchange
    exact work_error hbetween.quiet (by decide) hwork rfl hexchange

theorem body_bind {first : Task α} {go : α → Task β} {middle : α → Transaction → Prop} {last : β → Transaction → Prop}
    (hfirst : first.run.Ensures Cluster.Answers cluster (BodyDone middle))
    (hgo : ∀ value transaction later, middle value transaction → Cluster.Held later transaction →
      (go value).run.Ensures Cluster.Answers later (BodyDone last)) :
    (first >>= go).run.Ensures Cluster.Answers cluster (BodyDone last) := by
  refine ensures_task_bind.2 (hfirst.mono fun result later hresult => ?_)
  cases result with
  | error failure => exact hresult
  | ok value =>
    obtain ⟨transaction, hmiddle, hheld⟩ := hresult
    exact hgo value transaction later hmiddle hheld

theorem body_pure {property : α → Transaction → Prop} {value : α} {transaction : Transaction}
    (hheld : cluster.Held transaction) (h : property value transaction) :
    (pure value : Task α).run.Ensures Cluster.Answers cluster (BodyDone property) :=
  Program.ensures_done.2 ⟨transaction, h, hheld⟩

theorem body_throw {property : α → Transaction → Prop} {failure : Failure} (hquiet : cluster.Quiet) :
    (throw failure : Task α).run.Ensures Cluster.Answers cluster (BodyDone property) :=
  Program.ensures_done.2 hquiet

/-! ## The bodies of queries -/

theorem insert_changes {tables : Tables} {table : String} {document : Document}
    (h : (execute tables (.insert table document)).1 = .ok ()) :
    (Command.insert table document).changes tables = true := by
  simp only [execute] at h
  split at h
  · cases h
  · next hfree => simpa [Command.changes] using hfree

theorem delete_changes {tables : Tables} {table : String} {filter : Filter} {deleted : Nat}
    (h : (execute tables (.delete table filter)).1 = .ok deleted) (hdeleted : deleted = 1) :
    (Command.delete table filter).changes tables = true := by
  have hsame : (deleteFirst filter (tables.documents table)).2 = deleted := Except.ok.inj h
  simp [Command.changes, hsame, hdeleted]

theorem writes_after {transaction : Transaction} {command : Command}
    (h : command.changes transaction.tables = true) :
    (transaction.after command).writes = transaction.writes ++ [command] := by
  simp [Transaction.after, h]

theorem createBody_ensures (attempt : Attempt) (first : Step) (h : cluster.Quiet ∧ cluster.phase = .idle) :
    (createBody attempt first).run.Ensures Cluster.Answers cluster
      (BodyDone fun _ transaction => transaction.Fulfils (.create attempt first)) := by
  refine body_bind (first_ensures h rfl) ?_
  rintro ⟨⟩ transaction later ⟨tables, hattempt, rfl⟩ hheld
  refine (inside_ensures hheld rfl).mono fun result later' hresult => ?_
  cases result with
  | error failure => exact hresult
  | ok value =>
    obtain ⟨transaction, ⟨hfirst, rfl⟩, hheld'⟩ := hresult
    refine ⟨_, ⟨?_, fun id expected change heq => nomatch heq⟩, hheld'⟩
    rw [writes_after (insert_changes hfirst), writes_after (insert_changes hattempt)]
    rfl

theorem readLast_ensures (id : String) (h : cluster.Quiet ∧ cluster.phase = .idle) :
    (readLast id).run.Ensures Cluster.Answers cluster
      (BodyDone fun last transaction => transaction.snapshot.lastStep? id = some last ∧ transaction.writes = []) := by
  refine body_bind (first_ensures h rfl) ?_
  rintro documents transaction later ⟨tables, hfound, rfl⟩ hheld
  have hdocuments : found (tables.documents stepTable) [("attempt_id", id)] (some ⟨"sequence_number", true⟩) (some 1) =
      documents := Except.ok.inj hfound
  cases documents with
  | nil => exact body_throw hheld.quiet
  | cons document rest =>
    cases hstep : step? document with
    | none =>
      have hread : readFirst .readLastStep step? (document :: rest) = .error (failureAt .readLastStep []) := by
        simp only [readFirst, hstep]
      simp only [hread]
      exact body_throw hheld.quiet
    | some last =>
      have hread : readFirst .readLastStep step? (document :: rest) = .ok (some last) := by
        simp only [readFirst, hstep]
      simp only [hread]
      refine body_pure hheld ⟨?_, rfl⟩
      simp [Transaction.after, Transaction.begun, Tables.lastStep?, hdocuments, hstep]

theorem removeStep_ensures (id : String) (last : Step) (removed : String) {transaction : Transaction}
    (h : cluster.Held transaction) :
    (removeStep id last removed).run.Ensures Cluster.Answers cluster (BodyDone fun _ next =>
      next.snapshot = transaction.snapshot ∧
        next.writes = transaction.writes ++ [.delete stepTable [("_id", removed), ("attempt_id", id)]]) := by
  refine body_bind (inside_ensures h rfl) ?_
  intro (deleted : Nat) next later hspec hheld
  obtain ⟨hdeleted, rfl⟩ := hspec
  by_cases hone : deleted = 1
  · simp only [hone, ite_true]
    exact body_pure hheld ⟨rfl, writes_after (delete_changes hdeleted hone)⟩
  · simp only [hone, ite_false]
    exact body_throw hheld.quiet

theorem appendStep_ensures (appended : Option Step) {transaction : Transaction} (h : cluster.Held transaction) :
    (match appended with
      | some step => send .insertStep .inside (.insert stepTable step.toJson)
      | none => pure () : Task Unit).run.Ensures Cluster.Answers cluster (BodyDone fun _ next =>
        next.snapshot = transaction.snapshot ∧ next.writes =
          transaction.writes ++ (appended.map fun step => .insert stepTable step.toJson).toList) := by
  cases appended with
  | none => exact body_pure h ⟨rfl, by simp⟩
  | some step =>
    refine (inside_ensures h rfl).mono fun result later hresult => ?_
    cases result with
    | error failure => exact hresult
    | ok value =>
      obtain ⟨next, ⟨hinsert, rfl⟩, hheld⟩ := hresult
      exact ⟨transaction.after _, ⟨rfl, writes_after (insert_changes hinsert)⟩, hheld⟩

theorem changeBody_ensures (id expected : String) (change : Change) (h : cluster.Quiet ∧ cluster.phase = .idle) :
    (changeBody id expected change).run.Ensures Cluster.Answers cluster
      (BodyDone fun _ transaction => transaction.Fulfils (.commit id expected change)) := by
  refine body_bind (readLast_ensures id h) ?_
  rintro last seen later ⟨hlast, hnothing⟩ hheld
  by_cases hexpected : last.id = expected
  · have hend : ∀ result cluster', BodyDone (fun _ next => next.snapshot = seen.snapshot ∧
          next.writes = writesOf (.commit id expected change)) result cluster' →
        BodyDone (fun (_ : Unit) transaction => transaction.Fulfils (.commit id expected change)) result cluster' := by
      intro result cluster' hresult
      cases result with
      | error failure => exact hresult
      | ok value =>
        obtain ⟨transaction, ⟨hsnapshot, hwrites⟩, hheld'⟩ := hresult
        refine ⟨transaction, ⟨hwrites, fun id' expected' change' heq => ?_⟩, hheld'⟩
        cases heq
        exact ⟨last, by rw [hsnapshot]; exact hlast, hexpected⟩
    simp only [hexpected, ite_true]
    refine Program.Ensures.mono ?_ hend
    cases hremoved : change.removed with
    | none =>
      have hwrites : seen.writes ++ (change.appended.map fun step => Command.insert stepTable step.toJson).toList =
          writesOf (.commit id expected change) := by
        simp [writesOf, hremoved, hnothing]
      rw [← hwrites]
      exact appendStep_ensures change.appended hheld
    | some removed =>
      refine body_bind (removeStep_ensures id last removed hheld) ?_
      rintro value next later' ⟨hsnapshot, hdeleted⟩ hheld'
      have hwrites : next.writes ++ (change.appended.map fun step => Command.insert stepTable step.toJson).toList =
          writesOf (.commit id expected change) := by
        simp [writesOf, hremoved, hnothing, hdeleted]
      rw [← hwrites, ← hsnapshot]
      exact appendStep_ensures change.appended hheld'
  · simp only [hexpected, ite_false]
    exact ensures_task_bind.2 (Program.ensures_done.2 hheld.quiet)

end Bodies

end AttemptLog.Database
