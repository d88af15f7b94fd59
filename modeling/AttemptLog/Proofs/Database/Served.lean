import AttemptLog.Proofs.Database.ExactlyOnce
import AttemptLog.Proofs.Database.Tables
/-!
A server that executes what it is sent.

`Executes` is what such a server answers. Two servers answer like this: one that executes every command, and the
deployment that nobody disturbs, which executes every command that can be sent to it. What a program comes to with the
first kind of answers is therefore what it comes to when it is run against one of them (`run_obey`, `run_answer`).

The rules for transactions say what becomes of one whose body succeeds (`transact_commits`) and of one whose body
fails in a way that does not pass (`transact_aborts`).
-/
namespace AttemptLog.Database

def Server.resting (tables : Tables) : Server := ⟨tables, none, [], []⟩

/-- a server inside a transaction, which has come to this copy -/
def Server.within (tables copy : Tables) : Server := ⟨tables, some copy, [], []⟩

/-- can a command be sent to a server that takes certain documents -/
def Command.IsTaken (takes : Document → Prop) : Command → Prop
  | .insert _ document => takes document
  | _ => True

/-- a server executes what it is sent; there are documents that it cannot be sent -/
inductive Executes (takes : Document → Prop) : Behaviour interface Server where
  | startSession {server : Server} : Executes takes .startSession server (.ok ()) server
  | startTransaction {server : Server} : Executes takes .startTransaction server (.ok ()) server
  | tally {server : Server} (count : Count) : Executes takes (.tally count) server () server
  | send {server next : Server} {place : Place} {command : Command} {reply : Except Fault command.Reply}
    (htaken : command.IsTaken takes) (hperform : server.perform place command = (reply, next)) :
    Executes takes (.send place command) server reply next

/-! ## Servers that execute what they are sent -/

/-- answers as a server that executes every command -/
def Server.obey : Handler interface Server
  | .startSession, server => (.ok (), server)
  | .startTransaction, server => (.ok (), server)
  | .send place command, server => server.perform place command
  | .pause _, server => ((), server)
  | .draw, server => ((0 : UInt64), server)
  | .tally _, server => ((), server)

/-- a deployment that nobody disturbs, seen without what it counts and remembers -/
structure Deployment.Holds (deployment : Deployment) (server : Server) : Prop where
  tables : deployment.server.tables = server.tables
  copy : deployment.server.copy = server.copy
  plan : deployment.server.plan = []

theorem perform_congr {a b : Server} (htables : a.tables = b.tables) (hcopy : a.copy = b.copy) (place : Place)
    (command : Command) :
    (a.perform place command).1 = (b.perform place command).1 ∧
      (a.perform place command).2.tables = (b.perform place command).2.tables ∧
      (a.perform place command).2.copy = (b.perform place command).2.copy ∧
      (a.perform place command).2.plan = a.plan := by
  cases command <;> cases place <;> simp [Server.perform, htables, hcopy]

theorem obey_follows (takes : Document → Prop) : Program.Follows Server.obey (Executes takes) Eq := by
  rintro request state reply next held hanswer rfl
  cases hanswer with
  | startSession => exact ⟨rfl, rfl⟩
  | startTransaction => exact ⟨rfl, rfl⟩
  | tally count => exact ⟨rfl, rfl⟩
  | send htaken hperform => exact ⟨congrArg Prod.fst hperform, congrArg Prod.snd hperform⟩

theorem answer_follows :
    Program.Follows Deployment.answer (Executes fun document => isSendable document = true) Deployment.Holds := by
  intro request state reply next held hanswer hsees
  cases hanswer with
  | startSession => exact ⟨rfl, hsees⟩
  | startTransaction => exact ⟨rfl, hsees⟩
  | tally count => exact ⟨rfl, hsees.tables, hsees.copy, hsees.plan⟩
  | @send _ _ place command _ htaken hperform =>
    have hsendable : command.isSendable = true := by
      cases command with
      | insert table document => exact htaken
      | _ => rfl
    have hcalm : held.server.disturbance? command.name = none := by simp [Server.disturbance?, hsees.plan]
    obtain ⟨hreply, htables, hcopy, hplan⟩ :=
      @perform_congr { held.server with sent := (place, command) :: held.server.sent } _ hsees.tables hsees.copy place
        command
    rw [hperform] at hreply htables hcopy
    simp only [Deployment.answer, hsendable, ite_true, Server.receive, hcalm]
    exact ⟨hreply, htables, hcopy, hplan.trans hsees.plan⟩

/-! ## Commands and transactions -/

namespace Executes

variable {takes : Document → Prop} {tables copy : Tables} {stage : Stage} {command : Command} {value : command.Reply}

theorem outside (htaken : command.IsTaken takes) (hvalue : (execute tables command).1 = .ok value) :
    (Database.send stage .outside command).run.Runs (Executes takes) (.resting tables) (.ok value)
      (.resting (tables.after command)) := by
  have hperform : (Server.resting tables).perform .outside command = (.ok value, .resting (tables.after command)) := by
    rw [← hvalue]
    cases command <;> rfl
  exact .ask (.send htaken hperform) (.done _ _)

theorem first (hwork : command.isWork = true) (htaken : command.IsTaken takes)
    (hvalue : (execute tables command).1 = .ok value) :
    (Database.send stage .first command).run.Runs (Executes takes) (.resting tables) (.ok value)
      (.within tables (tables.after command)) := by
  have hperform : (Server.resting tables).perform .first command =
      (.ok value, .within tables (tables.after command)) := by
    rw [← hvalue]
    cases command with
    | commit => cases hwork
    | abort => cases hwork
    | _ => rfl
  exact .ask (.send htaken hperform) (.done _ _)

theorem inside (hwork : command.isWork = true) (htaken : command.IsTaken takes)
    (hvalue : (execute copy command).1 = .ok value) :
    (Database.send stage .inside command).run.Runs (Executes takes) (.within tables copy) (.ok value)
      (.within tables (copy.after command)) := by
  have hperform : (Server.within tables copy).perform .inside command =
      (.ok value, .within tables (copy.after command)) := by
    rw [← hvalue]
    cases command with
    | commit => cases hwork
    | abort => cases hwork
    | _ => rfl
  exact .ask (.send htaken hperform) (.done _ _)

/-- **A transaction whose body succeeds** leaves what its body has come to. -/
theorem transact_commits {body : Task Unit}
    (hbody : body.run.Runs (Executes takes) (.resting tables) (.ok ()) (.within tables copy)) :
    (transact body).Runs (Executes takes) (.resting tables) (.ok ()) (.resting copy) := by
  have hcommit : Executes takes (.send .inside .commit) (.within tables copy) (.ok ()) (.resting copy) :=
    .send trivial rfl
  refine transact_runs (.ask .startSession (.ask .startTransaction ?_))
  change Program.Runs (Executes takes) (Program.bind body.run _) _ _ _
  exact .bind hbody (.ask hcommit (.done _ _))

theorem retryFrom_fails {σ : Type} {behaviour : Behaviour interface σ} {call : Program interface (Except Failure Unit)}
    {state later : σ} {failure : Failure} (backoff : Backoff) (hpasses : isTransient failure = false)
    (hcall : call.Runs behaviour state (.error failure) later) (left : Nat) (delay : Span) :
    (backoff.retryFrom isTransient (Program.query (I := interface) .draw)
      (fun span => Program.query (I := interface) (.pause span)) call left delay).Runs behaviour state
        (some (.error failure)) later := by
  cases left with
  | zero => exact .bind hcall (.done _ _)
  | succ left =>
    refine .bind hcall ?_
    simp only [hpasses, Bool.not_false, ite_true]
    exact .done _ _

/-- **A transaction whose body fails** in a way that does not pass leaves the tables as they were. -/
theorem transact_aborts {body : Task Unit} {failure : Failure} (hpasses : isTransient failure = false)
    (hbody : body.run.Runs (Executes takes) (.resting tables) (.error failure) (.within tables copy)) :
    (transact body).Runs (Executes takes) (.resting tables) (.error failure) (.resting tables) := by
  have habort : Executes takes (.send .inside .abort) (.within tables copy) (.ok ()) (.resting tables) :=
    .send trivial rfl
  have honce : (transactOnce body).Runs (Executes takes) (.resting tables) (.error failure) (.resting tables) := by
    refine .ask .startSession (.ask .startTransaction ?_)
    change Program.Runs (Executes takes) (Program.bind body.run _) _ _ _
    exact .bind hbody (.ask habort (.done _ _))
  exact .bind (retryFrom_fails Backoff.transaction hpasses honce _ _) (.done _ _)

theorem tracked_runs {α : Type} {operation table : String} {work : Program interface (Except Failure α)}
    {result : Except Failure α} {server next : Server} (hwork : work.Runs (Executes takes) server result next) :
    (tracked operation table work).Runs (Executes takes) server result next :=
  .bind hwork (.ask (.tally _) (.done _ _))

theorem readLast_runs {id : String} {last : Step} (hlast : tables.lastStep? id = some last) :
    (readLast id).run.Runs (Executes takes) (.resting tables) (.ok last) (.within tables tables) := by
  cases hfound : found (tables.documents stepTable) [("attempt_id", id)] (some ⟨"sequence_number", true⟩) (some 1) with
  | nil => simp [Tables.lastStep?, hfound] at hlast
  | cons document rest =>
    have hstep : step? document = some last := by simpa [Tables.lastStep?, hfound] using hlast
    have hread : readFirst .readLastStep step? (document :: rest) = .ok (some last) := by simp only [readFirst, hstep]
    refine .bind (first rfl trivial (congrArg Except.ok hfound)) ?_
    simp only [ExceptT.bindCont, hread]
    exact .done _ _

/-- a change is carried out if the step that it takes away is there and nothing stands in the way of the one that it
adds -/
theorem changeBody_runs {id : String} {last : Step} {change : Change} (hlast : tables.lastStep? id = some last)
    (hremoved : ∀ removed, change.removed = some removed →
      (execute tables (.delete stepTable [("_id", removed), ("attempt_id", id)])).1 = .ok (1 : Nat))
    (happended : ∀ step, change.appended = some step → takes step.toJson ∧
      ((((change.removed.map fun removed =>
        Command.delete stepTable [("_id", removed), ("attempt_id", id)]).toList.foldl
          Tables.after tables).documents stepTable).any (collide step.toJson)) = false) :
    (changeBody id last.id change).run.Runs (Executes takes) (.resting tables) (.ok ())
      (.within tables ((writesOf (.commit id last.id change)).foldl Tables.after tables)) := by
  refine .bind (readLast_runs hlast) ?_
  simp only [ExceptT.bindCont, ite_true, writesOf]
  cases hremove : change.removed with
  | none =>
    rw [hremove] at happended
    cases happend : change.appended with
    | none => exact .done _ _
    | some step =>
      obtain ⟨htaken, hfree⟩ := happended step happend
      exact inside rfl htaken (insert_ok hfree)
  | some removed =>
    have hdelete : (removeStep id last removed).run.Runs (Executes takes) (.within tables tables) (.ok ())
        (.within tables (tables.after (.delete stepTable [("_id", removed), ("attempt_id", id)]))) :=
      .bind (inside rfl trivial (hremoved removed hremove)) (.done _ _)
    rw [hremove] at happended
    refine .bind hdelete ?_
    cases happend : change.appended with
    | none => exact .done _ _
    | some step =>
      obtain ⟨htaken, hfree⟩ := happended step happend
      exact inside rfl htaken (insert_ok hfree)

end Executes

end AttemptLog.Database
