import AttemptLog.Proofs.Database.Site
/-!
A call that nobody disturbs.

If no command fails while a call has its turns, and nobody else has one in between, then what the call commits is
applied (`transactOnce_undisturbed`). Such a call is one of the things that can happen at a site (`steps_of_runs`).
-/
namespace AttemptLog.Database

/-- a question of a client that is answered while nobody else has a turn; the ledger grows by what is applied -/
def Undisturbed (place : Nat) (ticket : Ticket) :
    Behaviour interface (Watch × List Entry) := fun request state reply next =>
  ∃ applied : Option Transaction, (state.1.on (tablesAfter state.2)).Exchanges request reply next.1 ∧
    next.1.cluster.ledger = state.1.cluster.ledger ++ applied.toList ∧
    (∀ transaction, applied = some transaction → Admits state.2 transaction) ∧
    next.2 = state.2 ++ applied.toList.map (Entry.mk place ticket next.1.seen)

/-- a client is at work in a session of which no commit is doubtful -/
def moment (tables : Tables) (phase : Phase) (applied : List Transaction) (seen : List Tables) (ledger : List Entry) :
    Watch × List Entry := (⟨⟨tables, phase, [], applied⟩, seen⟩, ledger)

/-- **The turns of a call that nobody disturbs can be taken at a site.** -/
theorem steps_of_runs {place : Nat} {ticket : Ticket} {program : Program interface (Report Answer)}
    {state next : Watch × List Entry} {report : Report Answer}
    (hruns : program.Runs (Undisturbed place ticket) state report next) {clients : List Client}
    (hclient : clients[place]? = some ⟨ticket, program, state.1⟩) :
    Relation.ReflTransGen Site.Step ⟨clients, state.2⟩ ⟨clients.set place ⟨ticket, .done report, next.1⟩, next.2⟩ := by
  induction hruns generalizing clients with
  | done report state =>
    obtain ⟨hplace, hget⟩ := List.getElem?_eq_some_iff.1 hclient
    rw [← hget, List.set_getElem_self]
  | @ask request go state between final reply report hanswer hrest ih =>
    obtain ⟨applied, hexchanges, hledger, hadmits, hnext⟩ := hanswer
    have hplace := (List.getElem?_eq_some_iff.1 hclient).1
    have hstep : Site.Step ⟨clients, state.2⟩ ⟨clients.set place ⟨ticket, go reply, between.1⟩, between.2⟩ := by
      rw [hnext]
      exact @Site.Step.turn ⟨clients, state.2⟩ place _ ⟨ticket, go reply, between.1⟩ state.2 applied hclient
        (List.prefix_refl _) (.asks rfl hexchanges) hledger hadmits
    have hnow : (clients.set place ⟨ticket, go reply, between.1⟩)[place]? = some ⟨ticket, go reply, between.1⟩ :=
      List.getElem?_set_self hplace
    have hrests := ih hnow
    rw [List.set_set] at hrests
    exact .head hstep hrests

section Turns

variable {place : Nat} {ticket : Ticket} {tables : Tables} {phase phase' : Phase} {applied : List Transaction}
  {seen : List Tables} {ledger : List Entry}

theorem undisturbed_quiet {request : Request} {reply : request.Reply}
    (hexchange : Exchange request ⟨tablesAfter ledger, phase, [], applied⟩ reply
      ⟨tablesAfter ledger, phase', [], applied⟩)
    (htells : (tablesAfter ledger).Tells request reply) (hshown : (tablesAfter ledger).shownBy request reply = []) :
    Undisturbed place ticket request (moment tables phase applied seen ledger) reply
      (moment (tablesAfter ledger) phase' applied seen ledger) :=
  ⟨none, ⟨hexchange, htells, by simp [moment, Watch.on, hshown]⟩, by simp [moment], nofun, by simp [moment]⟩

theorem send_outside {stage : Stage} {command : Command} {value : command.Reply} (hwork : command.isWork = true)
    (hvalue : (execute (tablesAfter ledger) command).1 = .ok value) :
    (send stage .outside command).run.Runs (Undisturbed place ticket) (moment tables .idle applied seen ledger)
      (.ok value) (moment (tablesAfter ledger) .idle applied (seen ++ [tablesAfter ledger]) ledger) := by
  have hask : Undisturbed place ticket (.send .outside command) (moment tables .idle applied seen ledger) (.ok value)
      (moment (tablesAfter ledger) .idle applied (seen ++ [tablesAfter ledger]) ledger) :=
    ⟨none, ⟨.outside hwork (.ok value), hvalue, rfl⟩, by simp [moment], nofun, by simp [moment]⟩
  exact .ask hask (.done _ _)

theorem ask_first {command : Command} {value : command.Reply} (hwork : command.isWork = true)
    (hvalue : (execute (tablesAfter ledger) command).1 = .ok value) :
    Undisturbed place ticket (.send .first command) (moment tables .idle applied seen ledger) (.ok value)
      (moment (tablesAfter ledger) (.active ((Transaction.begun (tablesAfter ledger)).after command)) applied seen
        ledger) := by
  have hexchange : Exchange (.send .first command) ⟨tablesAfter ledger, .idle, [], applied⟩ (.ok value)
      ⟨tablesAfter ledger, .active ((Transaction.begun (tablesAfter ledger)).after command), [], applied⟩ := by
    rw [← hvalue]
    exact .first hwork rfl
  exact undisturbed_quiet hexchange trivial rfl

theorem ask_inside {command : Command} {value : command.Reply} {transaction : Transaction}
    (hwork : command.isWork = true) (hvalue : (execute transaction.tables command).1 = .ok value) :
    Undisturbed place ticket (.send .inside command) (moment tables (.active transaction) applied seen ledger)
      (.ok value) (moment (tablesAfter ledger) (.active (transaction.after command)) applied seen ledger) := by
  have hexchange : Exchange (.send .inside command) ⟨tablesAfter ledger, .active transaction, [], applied⟩ (.ok value)
      ⟨tablesAfter ledger, .active (transaction.after command), [], applied⟩ := by
    rw [← hvalue]
    exact .inside hwork rfl
  exact undisturbed_quiet hexchange trivial rfl

/-- **What is committed is applied.** -/
theorem commit_undisturbed {transaction : Transaction} (hsnapshot : transaction.snapshot = tablesAfter ledger)
    (hsound : transaction.IsSound) :
    (commitFrom maxCommitRetries).Runs (Undisturbed place ticket) (moment tables (.active transaction) [] seen ledger)
      (.ok ()) (moment (transaction.applyTo (tablesAfter ledger)) (.applied transaction) [transaction] seen
        (ledger ++ [⟨place, ticket, seen, transaction⟩])) := by
  have hadmits : ∀ other, some transaction = some other → Admits ledger other := by
    rintro other ⟨⟩
    exact ⟨ledger, [], (List.append_nil _).symm, hsnapshot, fun entry hentry => absurd hentry List.not_mem_nil⟩
  have htakes : (tablesAfter ledger).takes transaction.writes = true := hsnapshot ▸ hsound.takes
  have hask : Undisturbed place ticket (.send .inside .commit) (moment tables (.active transaction) [] seen ledger)
      (.ok ()) (moment (transaction.applyTo (tablesAfter ledger)) (.applied transaction) [transaction] seen
        (ledger ++ [⟨place, ticket, seen, transaction⟩])) :=
    ⟨some transaction, ⟨.commits (.inl rfl) htakes, trivial, (List.append_nil seen).symm⟩, rfl, hadmits, rfl⟩
  exact .ask hask (.done _ _)

theorem transact_undisturbed {body : Task Unit} {transaction : Transaction}
    (hbody : body.run.Runs (Undisturbed place ticket) (moment (tablesAfter ledger) .idle [] seen ledger) (.ok ())
      (moment (tablesAfter ledger) (.active transaction) [] seen ledger))
    (hsnapshot : transaction.snapshot = tablesAfter ledger) (hsound : transaction.IsSound) :
    (transact body).Runs (Undisturbed place ticket) (moment tables .idle [] seen ledger) (.ok ())
      (moment (transaction.applyTo (tablesAfter ledger)) (.applied transaction) [transaction] seen
        (ledger ++ [⟨place, ticket, seen, transaction⟩])) := by
  refine transact_runs (.ask (undisturbed_quiet (.session (.ok ())) trivial rfl) ?_)
  refine .ask (undisturbed_quiet (.transaction (.ok ())) trivial rfl) ?_
  change Program.Runs (Undisturbed place ticket) (Program.bind body.run _) _ _ _
  exact .bind hbody (commit_undisturbed hsnapshot hsound)

theorem tracked_undisturbed {α : Type} {operation table : String} {work : Program interface (Except Failure α)}
    {result : Except Failure α} {state : Watch × List Entry}
    (hwork : work.Runs (Undisturbed place ticket) state result (moment tables phase applied seen ledger)) :
    (tracked operation table work).Runs (Undisturbed place ticket) state result
      (moment (tablesAfter ledger) phase applied seen ledger) :=
  .bind hwork (.ask (undisturbed_quiet (.tally _) trivial rfl) (.done _ _))

/-! ## Calls -/

theorem create_undisturbed {attempt : Attempt} {first : Step}
    (hattempt : ((tablesAfter ledger).documents attemptTable).any (collide attempt.toJson) = false)
    (hfirst : ((tablesAfter ledger).documents stepTable).any (collide first.toJson) = false) :
    ∃ transaction : Transaction, transaction.writes = writesOf (.create attempt first) ∧
      (answer (.create attempt first)).Runs (Undisturbed place ticket) (moment tables .idle [] seen ledger) (.ok ())
        (moment (tablesAfter (ledger ++ [⟨place, ticket, seen, transaction⟩])) (.applied transaction) [transaction] seen
          (ledger ++ [⟨place, ticket, seen, transaction⟩])) := by
  have hmade := insert_made_ok attempt.toJson hfirst
  have hwrites : (((Transaction.begun (tablesAfter ledger)).after (.insert attemptTable attempt.toJson)).after
      (.insert stepTable first.toJson)).writes = writesOf (.create attempt first) := by
    rw [writes_after (insert_changes hmade), writes_after (insert_changes (insert_ok hattempt))]
    rfl
  exact ⟨_, hwrites, tracked_undisturbed (transact_undisturbed
    (.ask (ask_first rfl (insert_ok hattempt)) (.ask (ask_inside rfl hmade) (.done _ _))) rfl
    (((Transaction.begun_isSound _).after _).after _))⟩

theorem append_undisturbed {id : String} {last step : Step} {change : Change}
    (hlast : (tablesAfter ledger).lastStep? id = some last) (hremoved : change.removed = none)
    (happended : change.appended = some step)
    (hfree : ((tablesAfter ledger).documents stepTable).any (collide step.toJson) = false) :
    ∃ transaction : Transaction, transaction.writes = writesOf (.commit id last.id change) ∧
      (answer (.commit id last.id change)).Runs (Undisturbed place ticket) (moment tables .idle [] seen ledger) (.ok ())
        (moment (tablesAfter (ledger ++ [⟨place, ticket, seen, transaction⟩])) (.applied transaction) [transaction] seen
          (ledger ++ [⟨place, ticket, seen, transaction⟩])) := by
  have hchange : change.isEmpty = false := by simp [Change.isEmpty, happended]
  have hinsert := insert_ok hfree
  have hwrites : ((Transaction.begun (tablesAfter ledger)).after (.insert stepTable step.toJson)).writes =
      writesOf (.commit id last.id change) := by
    rw [writes_after (insert_changes hinsert), writesOf, hremoved, happended]
    rfl
  have hbody : (changeBody id last.id change).run.Runs (Undisturbed place ticket)
      (moment (tablesAfter ledger) .idle [] seen ledger) (.ok ()) (moment (tablesAfter ledger)
        (.active ((Transaction.begun (tablesAfter ledger)).after (.insert stepTable step.toJson))) [] seen ledger) :=
    changeBody_runs (readLast_runs hlast fun documents hdocuments => ask_first rfl (congrArg Except.ok hdocuments))
      hremoved happended (ask_inside rfl hinsert)
  refine ⟨_, hwrites, ?_⟩
  simp only [answer, hchange, Bool.false_eq_true, ite_false]
  exact tracked_undisturbed (transact_undisturbed hbody rfl ((Transaction.begun_isSound _).after _))

theorem shown_undisturbed {α : Type} {result : Except Failure α} {value : α} {state : Watch × List Entry}
    (h : result = .ok value) : Program.Runs (Undisturbed place ticket) (.done result) state (.ok value) state := by
  rw [h]
  exact .done _ _

theorem find_undisturbed {id : String} {attempt : Attempt}
    (hattempt : found ((tablesAfter ledger).documents attemptTable) [("_id", id)] none (some 1) = [attempt.toJson]) :
    (answer (.find id)).Runs (Undisturbed place ticket) (moment tables .idle [] seen ledger) (.ok (some attempt))
      (moment (tablesAfter ledger) .idle [] (seen ++ [tablesAfter ledger]) ledger) := by
  have hread : readFirst .findAttempt attempt? [attempt.toJson] = .ok (some attempt) := by
    simp only [readFirst, attempt?_toJson]
  exact tracked_undisturbed (.bind (send_outside rfl (congrArg Except.ok hattempt)) (shown_undisturbed hread))

theorem load_undisturbed {id : String} {steps : List Step} (hsteps : (tablesAfter ledger).steps? id = some steps) :
    (answer (.load id)).Runs (Undisturbed place ticket) (moment tables .idle [] seen ledger) (.ok steps)
      (moment (tablesAfter ledger) .idle [] (seen ++ [tablesAfter ledger]) ledger) := by
  let documents := found ((tablesAfter ledger).documents stepTable) [("attempt_id", id)]
    (some ⟨"sequence_number", false⟩) none
  have hdocuments : documents.mapM step? = some steps := hsteps
  have hread : readAll .readSteps step? documents = .ok steps := by simp only [readAll, hdocuments]
  exact tracked_undisturbed (.bind (send_outside rfl rfl) (shown_undisturbed hread))

/-- **An attempt is begun** if nothing stands in the way of it. -/
theorem start_undisturbed {questionId userId : String} (hcall : ticket.call = .start questionId userId)
    (hattempt : ((tablesAfter ledger).documents attemptTable).any
      (collide (ticket.issue.newView questionId userId).attempt.toJson) = false)
    (hfirst : ((tablesAfter ledger).documents stepTable).any
      (collide (ticket.issue.newView questionId userId).history.current.toJson) = false) :
    ∃ (transaction : Transaction) (report : Report Answer), transaction.writes = writesOf
        (.create (ticket.issue.newView questionId userId).attempt
          (ticket.issue.newView questionId userId).history.current) ∧
      (ticket.program.via answer).Runs (Undisturbed place ticket) (moment tables .idle [] [] ledger) report
        (moment (tablesAfter (ledger ++ [⟨place, ticket, [], transaction⟩])) (.applied transaction) [transaction] []
          (ledger ++ [⟨place, ticket, [], transaction⟩])) := by
  obtain ⟨transaction, hwrites, hcreate⟩ := create_undisturbed hattempt hfirst
  rcases ticket.program_cases with ⟨questionId', userId', hcall', hprogram⟩ | ⟨id, htarget, -⟩
  · rw [hcall] at hcall'
    cases hcall'
    rw [hprogram]
    exact ⟨transaction, _, hwrites, .bind hcreate (.done _ _)⟩
  · rw [hcall] at htarget
    cases htarget

/-- **A step is added** by a call that was shown the steps as they are. -/
theorem submit_undisturbed {id : String} {submission : Submission} {expected : Option String} {view : View}
    {decision : Decision} {step : Step} (hcall : ticket.call = .submit id submission expected)
    (hattempt : found ((tablesAfter ledger).documents attemptTable) [("_id", id)] none (some 1) = [view.attempt.toJson])
    (hsteps : (tablesAfter ledger).steps? id = some view.history.steps)
    (hlast : (tablesAfter ledger).lastStep? id = some view.history.last)
    (hlog : History.ofSteps id view.history.steps = .ok view.history)
    (hdecide : view.decide submission expected ticket.issue.stamp = .ok decision)
    (hremoved : decision.change.removed = none) (happended : decision.change.appended = some step)
    (hfree : ((tablesAfter ledger).documents stepTable).any (collide step.toJson) = false) :
    ∃ (transaction : Transaction) (report : Report Answer),
      transaction.writes = writesOf (.commit id view.history.last.id decision.change) ∧
      (ticket.program.via answer).Runs (Undisturbed place ticket) (moment tables .idle [] [] ledger) report
        (moment (tablesAfter (ledger ++ [⟨place, ticket, [tablesAfter ledger, tablesAfter ledger], transaction⟩]))
          (.applied transaction) [transaction] [tablesAfter ledger, tablesAfter ledger]
          (ledger ++ [⟨place, ticket, [tablesAfter ledger, tablesAfter ledger], transaction⟩])) := by
  obtain ⟨transaction, hwrites, hcommit⟩ := append_undisturbed hlast hremoved happended hfree
  have htarget : ticket.call.target? = some id := by rw [hcall]; rfl
  have hchange : decision.change.isEmpty = false := by simp [Change.isEmpty, happended]
  refine ⟨transaction, submission.accepted decision, hwrites, ?_⟩
  rw [Ticket.program, Call.program_eq htarget]
  refine .bind (find_undisturbed hattempt) (.bind (load_undisturbed hsteps) ?_)
  simp only [afterLoad, hlog, hcall, Except.map, Call.conclude, hdecide, hchange, Bool.false_eq_true, ite_false]
  exact .bind hcommit (.done _ _)

end Turns

/-! ## What becomes of the tables -/

section Documents

variable {ledger : List Entry} {entry : Entry}

theorem documents_begun {attempt : Attempt} {first : Step}
    (hwrites : entry.transaction.writes = writesOf (.create attempt first))
    (hattempt : ((tablesAfter ledger).documents attemptTable).any (collide attempt.toJson) = false)
    (hfirst : ((tablesAfter ledger).documents stepTable).any (collide first.toJson) = false) :
    (tablesAfter (ledger ++ [entry])).documents attemptTable =
        (tablesAfter ledger).documents attemptTable ++ [attempt.toJson] ∧
      (tablesAfter (ledger ++ [entry])).documents stepTable =
        (tablesAfter ledger).documents stepTable ++ [first.toJson] := by
  rw [tablesAfter_concat, Transaction.applyTo, hwrites]
  exact documents_created hattempt hfirst

theorem documents_added {id expected : String} {change : Change} {step : Step}
    (hwrites : entry.transaction.writes = writesOf (.commit id expected change)) (hremoved : change.removed = none)
    (happended : change.appended = some step)
    (hfree : ((tablesAfter ledger).documents stepTable).any (collide step.toJson) = false) :
    (tablesAfter (ledger ++ [entry])).documents stepTable =
      (tablesAfter ledger).documents stepTable ++ [step.toJson] := by
  rw [tablesAfter_concat, Transaction.applyTo, hwrites, writesOf, hremoved, happended]
  exact documents_insert_self hfree

end Documents

end AttemptLog.Database
