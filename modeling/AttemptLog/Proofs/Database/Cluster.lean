import AttemptLog.Database.Server
import AttemptLog.Database.Store
import AttemptLog.Proofs.Runs
/-!
A cluster that may fail at any command, while others write.

Of a cluster only this much is known. What a transaction has written becomes visible as a whole or not at all: it is
applied only to tables that take all its writes. A reply with the label of a transient error says that the transaction
was not applied and will not be. After any other error of a commit it may have been applied, or may still be. A commit
that is sent again applies nothing twice, and succeeds only if the transaction is applied. A transaction that was
aborted or left behind before its commit was sent is never applied.

`Cluster` is the state of such a cluster as one client sees it, with a ledger of the client's transactions that were
applied. `Happens` says what can happen between two questions of the client, and `Exchange` how a question can be
answered. What the client does to the tables is said by `Cluster.Moves`: nothing, or what a transaction wrote that
comes into the ledger.
-/
namespace AttemptLog.Database

/-- the tables after a command, whether it succeeded or not -/
def Tables.after (tables : Tables) (command : Command) : Tables := (execute tables command).2

/-- does a command change the tables -/
def Command.changes (tables : Tables) : Command → Bool
  | .insert table document => !(tables.documents table).any (collide document)
  | .delete table filter => (deleteFirst filter (tables.documents table)).2 == 1
  | _ => false

/-- do writes all change something, one after another -/
def Tables.takes : Tables → List Command → Bool
  | _, [] => true
  | tables, command :: rest => command.changes tables && (tables.after command).takes rest

def Command.isWork : Command → Bool
  | .commit | .abort => false
  | _ => true

/-- a transaction: the tables that it saw at first, its commands that changed something, and its tables after them -/
structure Transaction where
  snapshot : Tables
  writes : List Command
  tables : Tables

namespace Transaction

def begun (tables : Tables) : Transaction := ⟨tables, [], tables⟩

def after (transaction : Transaction) (command : Command) : Transaction where
  snapshot := transaction.snapshot
  writes := transaction.writes ++ if command.changes transaction.tables then [command] else []
  tables := transaction.tables.after command

def applyTo (transaction : Transaction) (tables : Tables) : Tables := transaction.writes.foldl Tables.after tables

end Transaction

/-- how far the transaction of a session has come -/
inductive Phase where
  /-- no command of it was carried out -/
  | idle
  | active (transaction : Transaction)
  /-- its commit was sent, and it may be applied -/
  | doubtful (transaction : Transaction)
  | applied (transaction : Transaction)
  /-- it was not applied and will not be -/
  | dropped

/-- was the commit sent of a transaction that is not known to be dropped -/
def Phase.isSent : Phase → Bool
  | .doubtful _ | .applied _ => true
  | _ => false

/-- a cluster as a client sees it: the tables as they are for everybody, the transaction of the client's session,
those of earlier sessions that may still be applied, and those that were applied -/
structure Cluster where
  tables : Tables
  phase : Phase
  doubtful : List Transaction
  ledger : List Transaction

namespace Cluster

def start (tables : Tables) : Cluster := ⟨tables, .idle, [], []⟩

def leave (cluster : Cluster) : Cluster :=
  match cluster.phase with
  | .doubtful transaction => { cluster with phase := .idle, doubtful := cluster.doubtful ++ [transaction] }
  | _ => { cluster with phase := .idle }

def abort (cluster : Cluster) : Cluster :=
  match cluster.phase with
  | .active _ => { cluster with phase := .dropped }
  | _ => cluster

def apply (cluster : Cluster) (transaction : Transaction) : Cluster where
  tables := transaction.applyTo cluster.tables
  phase := .applied transaction
  doubtful := cluster.doubtful
  ledger := cluster.ledger ++ [transaction]

end Cluster

/-- what can happen while the client does not look -/
inductive Happens : Cluster → Cluster → Prop where
  /-- others write -/
  | others {cluster : Cluster} (tables : Tables) : Happens cluster { cluster with tables := tables }
  /-- a transaction takes too long -/
  | expires {cluster : Cluster} {transaction : Transaction} (hphase : cluster.phase = .active transaction) :
    Happens cluster { cluster with phase := .dropped }
  /-- a commit gets through of which the client was told that it failed -/
  | settles {cluster : Cluster} {transaction : Transaction} (hphase : cluster.phase = .doubtful transaction)
    (htakes : cluster.tables.takes transaction.writes = true) : Happens cluster (cluster.apply transaction)
  /-- the same for an earlier session -/
  | settlesLate {cluster : Cluster} {transaction : Transaction} {front back : List Transaction}
    (hdoubtful : cluster.doubtful = front ++ transaction :: back)
    (htakes : cluster.tables.takes transaction.writes = true) :
    Happens cluster
      { cluster with
        tables := transaction.applyTo cluster.tables
        doubtful := front ++ back
        ledger := cluster.ledger ++ [transaction] }

/-- how a transaction can stand after a command of its body failed with some labels -/
inductive WorkFails (labels : List String) : Phase → Phase → Prop where
  | lost {phase : Phase} (hphase : phase.isSent = false) : WorkFails labels phase .dropped
  /-- whatever the command has done -/
  | left {phase : Phase} (transaction : Transaction) (hphase : phase.isSent = false) (hdropped : phase ≠ .dropped)
    (hlabels : transientLabel ∉ labels) : WorkFails labels phase (.active transaction)
  | late {phase : Phase} (hphase : phase.isSent = true) : WorkFails labels phase phase

/-- how a transaction can stand after its commit failed with some labels -/
inductive CommitFails (labels : List String) : Phase → Phase → Prop where
  | lost {phase : Phase} (hphase : ∀ transaction, phase ≠ .applied transaction) : CommitFails labels phase .dropped
  | unknown {phase : Phase} {transaction : Transaction}
    (hphase : phase = .active transaction ∨ phase = .doubtful transaction) (hlabels : transientLabel ∉ labels) :
    CommitFails labels phase (.doubtful transaction)
  | applied {transaction : Transaction} (hlabels : transientLabel ∉ labels) :
    CommitFails labels (.applied transaction) (.applied transaction)

/-- how a question can be answered -/
inductive Exchange : Behaviour interface Cluster where
  | session {cluster : Cluster} (reply : Except Fault Unit) : Exchange .startSession cluster reply cluster.leave
  | transaction {cluster : Cluster} (reply : Except Fault Unit) : Exchange .startTransaction cluster reply cluster
  /-- the first command sees the tables as they are -/
  | first {cluster : Cluster} {command : Command} (hwork : command.isWork = true) (hphase : cluster.phase = .idle) :
    Exchange (.send .first command) cluster (execute cluster.tables command).1
      { cluster with phase := .active ((Transaction.begun cluster.tables).after command) }
  /-- further commands see what the transaction did -/
  | inside {cluster : Cluster} {command : Command} {transaction : Transaction} (hwork : command.isWork = true)
    (hphase : cluster.phase = .active transaction) :
    Exchange (.send .inside command) cluster (execute transaction.tables command).1
      { cluster with phase := .active (transaction.after command) }
  | workFails {cluster : Cluster} {place : Place} {command : Command} {labels : List String} {phase : Phase}
    (hplace : place ≠ .outside) (hwork : command.isWork = true) (hphase : WorkFails labels cluster.phase phase) :
    Exchange (.send place command) cluster (.error ⟨labels⟩) { cluster with phase := phase }
  /-- there is nothing to apply -/
  | commitsNothing {cluster : Cluster} {place : Place} (hphase : cluster.phase = .idle) :
    Exchange (.send place .commit) cluster (.ok ()) cluster
  | commits {cluster : Cluster} {place : Place} {transaction : Transaction}
    (hphase : cluster.phase = .active transaction ∨ cluster.phase = .doubtful transaction)
    (htakes : cluster.tables.takes transaction.writes = true) :
    Exchange (.send place .commit) cluster (.ok ()) (cluster.apply transaction)
  /-- it was applied before -/
  | confirms {cluster : Cluster} {place : Place} {transaction : Transaction}
    (hphase : cluster.phase = .applied transaction) : Exchange (.send place .commit) cluster (.ok ()) cluster
  | commitFails {cluster : Cluster} {place : Place} {labels : List String} {phase : Phase}
    (hphase : CommitFails labels cluster.phase phase) :
    Exchange (.send place .commit) cluster (.error ⟨labels⟩) { cluster with phase := phase }
  | aborts {cluster : Cluster} {place : Place} (reply : Except Fault Unit) :
    Exchange (.send place .abort) cluster reply cluster.abort
  | outside {cluster : Cluster} {command : Command} (hwork : command.isWork = true)
    (reply : Except Fault command.Reply) :
    Exchange (.send .outside command) cluster reply cluster
  | pause {cluster : Cluster} (span : Span) : Exchange (.pause span) cluster () cluster
  | draw {cluster : Cluster} (number : UInt64) : Exchange .draw cluster number cluster
  | tally {cluster : Cluster} (count : Count) : Exchange (.tally count) cluster () cluster

/-- the client's questions, and whatever happens before each -/
def Cluster.Answers : Behaviour interface Cluster := fun request cluster reply next =>
  ∃ between, Relation.ReflTransGen Happens cluster between ∧ Exchange request between reply next

/-! ## What becomes of the tables -/

/-- what a client can do to the tables: nothing, or all that a transaction wrote, which then comes into the ledger -/
inductive Cluster.Moves (cluster next : Cluster) : Prop
  | rests (htables : next.tables = cluster.tables) (hledger : next.ledger = cluster.ledger)
  | applies {transaction : Transaction} (htakes : cluster.tables.takes transaction.writes = true)
    (htables : next.tables = transaction.writes.foldl Tables.after cluster.tables)
    (hledger : next.ledger = cluster.ledger ++ [transaction])

/-- only others change the tables in another way while the client does not look -/
theorem Happens.moves {cluster next : Cluster} (h : Happens cluster next) :
    cluster.Moves next ∨ ∃ tables, next = { cluster with tables := tables } := by
  cases h with
  | others tables => exact .inr ⟨tables, rfl⟩
  | expires hphase => exact .inl (.rests rfl rfl)
  | settles hphase htakes => exact .inl (.applies htakes rfl rfl)
  | settlesLate hdoubtful htakes => exact .inl (.applies htakes rfl rfl)

theorem Cluster.leave_moves (cluster : Cluster) : cluster.Moves cluster.leave := by
  unfold leave
  split <;> exact .rests rfl rfl

theorem Cluster.abort_moves (cluster : Cluster) : cluster.Moves cluster.abort := by
  unfold abort
  split <;> exact .rests rfl rfl

theorem Exchange.moves {request : Request} {cluster next : Cluster} {reply : request.Reply}
    (h : Exchange request cluster reply next) : cluster.Moves next := by
  cases h with
  | session reply => exact cluster.leave_moves
  | aborts reply => exact cluster.abort_moves
  | commits hphase htakes => exact .applies htakes rfl rfl
  | _ => exact .rests rfl rfl

theorem deleteFirst_snd (filter : Filter) (documents : List Document) :
    (deleteFirst filter documents).2 = 0 ∨ (deleteFirst filter documents).2 = 1 := by
  induction documents with
  | nil => exact .inl rfl
  | cons document rest ih =>
    rw [deleteFirst]
    split
    · exact .inr rfl
    · exact ih

theorem Tables.after_of_not_changes {tables : Tables} {command : Command} (h : command.changes tables = false) :
    tables.after command = tables := by
  cases command with
  | insert table document =>
    have hcollides : (tables.documents table).any (collide document) = true := by simpa [Command.changes] using h
    rw [Tables.after, execute, if_pos hcollides]
  | delete table filter =>
    have hmany : (deleteFirst filter (tables.documents table)).2 ≠ 1 := by simpa [Command.changes] using h
    have hnone := (deleteFirst_snd filter (tables.documents table)).resolve_right hmany
    simp only [Tables.after, execute, hnone, ite_true]
  | _ => rfl

theorem Tables.takes_append (tables : Tables) (first second : List Command) :
    tables.takes (first ++ second) = (tables.takes first && (first.foldl Tables.after tables).takes second) := by
  induction first generalizing tables with
  | nil => rfl
  | cons command first ih => simp [Tables.takes, ih, Bool.and_assoc]

/-- do the writes of a transaction lead from the tables that it saw to its own -/
structure Transaction.IsSound (transaction : Transaction) : Prop where
  takes : transaction.snapshot.takes transaction.writes = true
  tables : transaction.tables = transaction.writes.foldl Tables.after transaction.snapshot

theorem Transaction.begun_isSound (tables : Tables) : (begun tables).IsSound := ⟨rfl, rfl⟩

theorem Transaction.IsSound.after {transaction : Transaction} (h : transaction.IsSound) (command : Command) :
    (transaction.after command).IsSound := by
  cases hchanges : command.changes transaction.tables with
  | false =>
    have hsame : transaction.after command = transaction := by
      simp [Transaction.after, hchanges, Tables.after_of_not_changes hchanges]
    rwa [hsame]
  | true =>
    constructor
    · simp [Transaction.after, hchanges, Tables.takes_append, Tables.takes, h.takes, ← h.tables]
    · simp [Transaction.after, hchanges, List.foldl_append, ← h.tables]

end AttemptLog.Database
