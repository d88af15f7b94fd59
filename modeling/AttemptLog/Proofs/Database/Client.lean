import AttemptLog.Proofs.Database.ExactlyOnce
import AttemptLog.Proofs.Service.Alone
/-!
One call of the service on a database that others work on as well.

A call asks its questions of the database (`answer`), and the tables that it was shown by reads outside of
transactions are noted (`Watch`). Whatever the cluster answers, at most one transaction of the call is ever applied,
and that is one that the call decided on what it was shown (`program_ensures`). Since a call can be refused everything
from any moment on (`refused_runs`), this holds at every moment, not only when the call has come to its end
(`ledger_of_ensures`).
-/
namespace AttemptLog.Database

/-- a cluster as a client sees it, and the tables that the client was shown -/
structure Watch where
  cluster : Cluster
  seen : List Tables

/-- is an answer true of tables, if it is one to a read outside of transactions -/
def Tables.Tells (tables : Tables) : (request : Request) → request.Reply → Prop
  | .send .outside command, .ok value => (execute tables command).1 = .ok value
  | _, _ => True

/-- the tables that an answer shows -/
def Tables.shownBy (tables : Tables) : (request : Request) → request.Reply → List Tables
  | .send .outside _, .ok _ => [tables]
  | _, _ => []

/-- how a question can be answered if reads outside of transactions see the tables of the cluster -/
structure Watch.Exchanges (watch : Watch) (request : Request) (reply : request.Reply) (next : Watch) : Prop where
  exchange : Exchange request watch.cluster reply next.cluster
  tells : watch.cluster.tables.Tells request reply
  seen : next.seen = watch.seen ++ watch.cluster.tables.shownBy request reply

/-- the client's questions, and whatever happens before each -/
def Watch.Answers : Behaviour interface Watch := fun request watch reply next =>
  ∃ between, Relation.ReflTransGen Happens watch.cluster between ∧
    (Watch.mk between watch.seen).Exchanges request reply next

/-- did a call decide on the writes of a transaction: to begin an attempt that has no steps, or on the steps of an
attempt that it was shown, of which it makes other ones -/
inductive Decided (ticket : Ticket) (seen : List Tables) (transaction : Transaction) :
    String → List Step → List Step → Prop where
  | start {questionId userId : String} (hcall : ticket.call = .start questionId userId)
    (hfulfils : transaction.Fulfils (.create (ticket.issue.newView questionId userId).attempt
      (ticket.issue.newView questionId userId).history.current)) :
    Decided ticket seen transaction ticket.issue.attemptId [] (ticket.issue.newView questionId userId).history.steps
  | submit {id : String} {submission : Submission} {expected : Option String} {shown : Tables} {view : View}
    {decision : Decision} (hcall : ticket.call = .submit id submission expected) (hshown : shown ∈ seen)
    (hread : shown.steps? id = some view.history.steps)
    (hlog : History.ofSteps id view.history.steps = .ok view.history)
    (hdecide : view.decide submission expected ticket.issue.stamp = .ok decision)
    (hchange : decision.change.isEmpty = false)
    (hfulfils : transaction.Fulfils (.commit id view.history.last.id decision.change)) :
    Decided ticket seen transaction id view.history.steps decision.history.steps

theorem Decided.more {ticket : Ticket} {seen further : List Tables} {transaction : Transaction} {id : String}
    {before after : List Step} (h : Decided ticket seen transaction id before after) (hmore : seen <+: further) :
    Decided ticket further transaction id before after := by
  cases h with
  | start hcall hfulfils => exact .start hcall hfulfils
  | submit hcall hshown hread hlog hdecide hchange hfulfils =>
    exact .submit hcall (hmore.subset hshown) hread hlog hdecide hchange hfulfils

/-- is at most one transaction applied, and only one that the call decided on -/
def Watch.Decides (watch : Watch) (ticket : Ticket) : Prop :=
  watch.cluster.ledger.length ≤ 1 ∧
    ∀ transaction ∈ watch.cluster.ledger, ∃ id before after, Decided ticket watch.seen transaction id before after

/-- the same, whatever happens while the client does not look -/
def Watch.Accounts (watch : Watch) (ticket : Ticket) : Prop :=
  ∀ later, Relation.ReflTransGen Happens watch.cluster later → (Watch.mk later watch.seen).Decides ticket

/-! ## Being shown tables changes nothing -/

section Watching

variable {α : Type} {watch next : Watch}

theorem Watch.Answers.cluster {request : Request} {reply : request.Reply} (h : Watch.Answers request watch reply next) :
    Cluster.Answers request watch.cluster reply next.cluster ∧ watch.seen <+: next.seen := by
  obtain ⟨between, hbetween, hexchanges⟩ := h
  exact ⟨⟨between, hbetween, hexchanges.exchange⟩, hexchanges.seen ▸ List.prefix_append _ _⟩

theorem runs_cluster {program : Program interface α} {value : α} (h : program.Runs Watch.Answers watch value next) :
    program.Runs Cluster.Answers watch.cluster value next.cluster ∧ watch.seen <+: next.seen := by
  induction h with
  | done value watch => exact ⟨.done _ _, List.prefix_refl _⟩
  | ask hanswer hrest ih =>
    obtain ⟨hcluster, hseen⟩ := hanswer.cluster
    exact ⟨.ask hcluster ih.1, hseen.trans ih.2⟩

/-- what a client ensures, a watched client ensures, and it does not forget what it was shown -/
theorem ensures_watched {program : Program interface α} {property : α → Cluster → Prop}
    (h : program.Ensures Cluster.Answers watch.cluster property) :
    program.Ensures Watch.Answers watch fun value later => property value later.cluster ∧
      watch.seen <+: later.seen := by
  intro value later hrun
  obtain ⟨hcluster, hseen⟩ := runs_cluster hrun
  exact ⟨h value later.cluster hcluster, hseen⟩

/-! ## Reads -/

/-- what a read comes to: something that tables hold which the client was shown, or nothing; nothing is applied -/
def ReadDone (reads : Tables → α → Prop) : Except Failure α → Watch → Prop
  | .ok value, watch => watch.cluster.Quiet ∧ ∃ tables ∈ watch.seen, reads tables value
  | .error _, watch => watch.cluster.Quiet

theorem ReadDone.quiet {reads : Tables → α → Prop} {result : Except Failure α} (h : ReadDone reads result watch) :
    watch.cluster.Quiet := by
  cases result with
  | error failure => exact h
  | ok value => exact h.1

theorem ReadDone.later {reads : Tables → α → Prop} {result : Except Failure α} (h : ReadDone reads result watch)
    (hquiet : next.cluster.Quiet) (hseen : watch.seen <+: next.seen) : ReadDone reads result next := by
  cases result with
  | error failure => exact hquiet
  | ok value =>
    obtain ⟨tables, htables, hreads⟩ := h.2
    exact ⟨hquiet, tables, hseen.subset htables, hreads⟩

theorem read_ensures {stage : Stage} {command : Command} (h : watch.cluster.Quiet) (hwork : command.isWork = true) :
    (send stage .outside command).run.Ensures Watch.Answers watch
      (ReadDone fun tables value => (execute tables command).1 = .ok value) := by
  refine Program.ensures_ask.2 fun reply later hanswer => ?_
  obtain ⟨between, hbetween, hexchanges⟩ := hanswer
  have hquiet : later.cluster.Quiet := by
    obtain ⟨later, shown⟩ := later
    have hbefore := Cluster.quiet_stays.later hbetween h
    cases hexchanges.exchange with
    | outside hwork' reply => exact hbefore
    | workFails hplace hwork' hphase => exact absurd rfl hplace
    | commitsNothing hphase => cases hwork
    | commits hphase => cases hwork
    | confirms hphase => cases hwork
    | commitFails hphase => cases hwork
    | aborts reply => cases hwork
  cases reply with
  | error fault => exact Program.ensures_done.2 hquiet
  | ok value =>
    refine Program.ensures_done.2 ⟨hquiet, between.tables, ?_, hexchanges.tells⟩
    rw [hexchanges.seen]
    exact List.mem_append_right _ (List.mem_singleton_self _)

theorem tracked_reads {operation table : String} {work : Program interface (Except Failure α)}
    {reads : Tables → α → Prop} (hwork : work.Ensures Watch.Answers watch (ReadDone reads)) :
    (tracked operation table work).Ensures Watch.Answers watch (ReadDone reads) := by
  change Program.Ensures Watch.Answers (Program.bind work _) watch _
  refine Program.ensures_bind.2 (hwork.mono fun result between hread => ?_)
  refine Program.ensures_ask.2 fun reply later hanswer => Program.ensures_done.2 ?_
  obtain ⟨⟨before, hbefore, hexchange⟩, hseen⟩ := hanswer.cluster
  refine hread.later ?_ hseen
  cases hexchange
  exact Cluster.quiet_stays.later hbefore hread.quiet

theorem find_ensures (id : String) (h : watch.cluster.Quiet) :
    (answer (.find id)).Ensures Watch.Answers watch (ReadDone fun _ _ => True) := by
  refine tracked_reads ?_
  change Program.Ensures Watch.Answers (Program.bind (send _ _ _).run _) watch _
  refine Program.ensures_bind.2 ((read_ensures h rfl).mono fun result between hread => ?_)
  cases result with
  | error failure => exact Program.ensures_done.2 hread
  | ok documents =>
    obtain ⟨hquiet, tables, htables, -⟩ := hread
    refine Program.ensures_done.2 ?_
    cases readFirst Stage.findAttempt attempt? documents with
    | error failure => exact hquiet
    | ok found => exact ⟨hquiet, tables, htables, trivial⟩

/-- **Steps are read off tables that the client is shown.** -/
theorem load_ensures (id : String) (h : watch.cluster.Quiet) :
    (answer (.load id)).Ensures Watch.Answers watch (ReadDone fun tables steps => tables.steps? id = some steps) := by
  refine tracked_reads ?_
  change Program.Ensures Watch.Answers (Program.bind (send _ _ _).run _) watch _
  refine Program.ensures_bind.2 ((read_ensures h rfl).mono fun result between hread => ?_)
  cases result with
  | error failure => exact Program.ensures_done.2 hread
  | ok documents =>
    obtain ⟨hquiet, tables, htables, hfound⟩ := hread
    have hdocuments : found (tables.documents stepTable) [("attempt_id", id)] (some ⟨"sequence_number", false⟩) none =
        documents := Except.ok.inj hfound
    refine Program.ensures_done.2 ?_
    simp only [readAll]
    cases hsteps : List.mapM step? documents with
    | none => exact hquiet
    | some steps => exact ⟨hquiet, tables, htables, (congrArg (List.mapM step?) hdocuments).trans hsteps⟩

end Watching

/-! ## What a call applies -/

section Calls

variable {watch : Watch} {ticket : Ticket}

theorem Watch.accounts_of_quiet (h : watch.cluster.Quiet) : watch.Accounts ticket := by
  intro later hlater
  have hledger : later.ledger = [] := (Cluster.quiet_stays.later hlater h).ledger
  simp [Decides, hledger]

/-- a query that writes what a call decided on applies nothing else -/
theorem writing_ensures {query : Query} (hwrites : writesOf query ≠ []) (h : watch.cluster.Quiet)
    (hdecided : ∀ transaction : Transaction, transaction.Fulfils query →
      ∃ id before after, Decided ticket watch.seen transaction id before after) :
    (answer query).Ensures Watch.Answers watch fun _ next => next.Accounts ticket := by
  refine (ensures_watched (answer_ensures query hwrites h)).mono fun result next houtcome later hlater => ?_
  obtain ⟨houtcome, hseen⟩ := houtcome
  obtain ⟨hone, hfulfils⟩ := (Outcome.stays.later hlater houtcome).ledger
  refine ⟨hone, fun transaction hmem => ?_⟩
  obtain ⟨id, before, after, hdecided⟩ := hdecided transaction (hfulfils transaction hmem)
  exact ⟨id, before, after, hdecided.more hseen⟩

/-- once an attempt was read, a call applies only what it decided on the steps that it was shown -/
theorem conclude_ensures {id : String} (htarget : ticket.call.target? = some id) {viewed : Except Failure View}
    (h : watch.cluster.Quiet)
    (hviewed : ∀ view, viewed = .ok view → (∃ shown ∈ watch.seen, shown.steps? id = some view.history.steps) ∧
      History.ofSteps id view.history.steps = .ok view.history) :
    ((ticket.call.conclude ticket.issue viewed).via answer).Ensures Watch.Answers watch
      fun _ next => next.Accounts ticket := by
  have hdone : ∀ report : Report Answer, (Program.done report).Ensures Watch.Answers watch
      fun _ next => next.Accounts ticket := fun report => Program.ensures_done.2 (Watch.accounts_of_quiet h)
  obtain ⟨call, issue⟩ := ticket
  cases call with
  | start questionId userId => cases htarget
  | submit other submission expected =>
    cases htarget
    cases viewed with
    | error failure => exact hdone _
    | ok view =>
      obtain ⟨⟨shown, hshown, hread⟩, hlog⟩ := hviewed view rfl
      cases hdecide : view.decide submission expected issue.stamp with
      | error failure =>
        simp only [Call.conclude, hdecide]
        exact hdone _
      | ok decision =>
        cases hempty : decision.change.isEmpty with
        | true =>
          simp only [Call.conclude, hdecide, hempty, ite_true]
          exact hdone _
        | false =>
          have hdecided : ∀ transaction : Transaction,
              transaction.Fulfils (.commit id view.history.last.id decision.change) → ∃ other before after,
                Decided ⟨.submit id submission expected, issue⟩ watch.seen transaction other before after :=
            fun transaction hfulfils => ⟨_, _, _, .submit rfl hshown hread hlog hdecide hempty hfulfils⟩
          simp only [Call.conclude, hdecide, hempty, Bool.false_eq_true, ite_false]
          refine Program.ensures_bind.2 ((writing_ensures (writesOf_ne_nil hempty) h hdecided).mono
            fun result next haccounts => ?_)
          cases result <;> exact Program.ensures_done.2 haccounts
  | _ => exact hdone _

/-- **A call applies at most one transaction, and one that it decided on what it was shown.** -/
theorem program_ensures (ticket : Ticket) (h : watch.cluster.Quiet) :
    (ticket.program.via answer).Ensures Watch.Answers watch fun _ next => next.Accounts ticket := by
  rcases ticket.program_cases with ⟨questionId, userId, hcall, hprogram⟩ | ⟨id, htarget, hprogram⟩
  · rw [hprogram]
    have hwrites : writesOf (.create (ticket.issue.newView questionId userId).attempt
        (ticket.issue.newView questionId userId).history.current) ≠ [] := List.cons_ne_nil _ _
    refine Program.ensures_bind.2 ((writing_ensures hwrites h fun transaction hfulfils =>
      ⟨_, _, _, .start hcall hfulfils⟩).mono fun result next haccounts => ?_)
    cases result <;> exact Program.ensures_done.2 haccounts
  · rw [hprogram]
    refine Program.ensures_bind.2 ((find_ensures id h).mono fun found next hread => ?_)
    have hquiet := hread.quiet
    have hfailed : ∀ failure : Failure,
        ((ticket.call.conclude ticket.issue (.error failure)).via answer).Ensures Watch.Answers next
          fun _ next => next.Accounts ticket := fun failure =>
      conclude_ensures htarget hquiet fun view hview => nomatch hview
    cases found with
    | error failure => exact hfailed failure
    | ok found =>
      cases found with
      | none => exact hfailed _
      | some attempt =>
        refine Program.ensures_bind.2 ((load_ensures id hquiet).mono fun loaded later hread => ?_)
        cases loaded with
        | error failure => exact conclude_ensures htarget hread fun view hview => nomatch hview
        | ok steps =>
          obtain ⟨hquiet', shown, hshown, hsteps⟩ := hread
          refine conclude_ensures htarget hquiet' fun view hview => ?_
          cases hlog : History.ofSteps id steps with
          | error failure =>
            rw [hlog] at hview
            cases hview
          | ok history =>
            rw [hlog] at hview
            cases hview
            obtain ⟨-, -, hsame, -⟩ := History.ofSteps_eq_ok hlog
            rw [hsame]
            exact ⟨⟨shown, hshown, hsteps⟩, hlog⟩

end Calls

/-! ## At every moment -/

section Moments

variable {α : Type} {watch : Watch}

theorem send_refused (cluster : Cluster) (place : Place) (command : Command) :
    ∃ next, Exchange (.send place command) cluster (.error ⟨[]⟩) next ∧ next.ledger = cluster.ledger := by
  cases hwork : command.isWork with
  | true =>
    by_cases hplace : place = .outside
    · subst hplace
      exact ⟨cluster, .outside hwork _, rfl⟩
    · cases hsent : cluster.phase.isSent with
      | true => exact ⟨_, .workFails hplace hwork (.late hsent), rfl⟩
      | false => exact ⟨_, .workFails hplace hwork (.lost hsent), rfl⟩
  | false =>
    cases command with
    | abort =>
      refine ⟨cluster.abort, .aborts _, ?_⟩
      unfold Cluster.abort
      split <;> rfl
    | commit =>
      by_cases happlied : ∃ transaction, cluster.phase = .applied transaction
      · obtain ⟨transaction, hphase⟩ := happlied
        have hfails : CommitFails [] cluster.phase (.applied transaction) := hphase ▸ .applied List.not_mem_nil
        exact ⟨_, .commitFails hfails, rfl⟩
      · exact ⟨_, .commitFails (.lost fun transaction hphase => happlied ⟨transaction, hphase⟩), rfl⟩
    | _ => cases hwork

theorem refused (watch : Watch) (request : Request) :
    ∃ reply next, Watch.Answers request watch reply next ∧ next.cluster.ledger = watch.cluster.ledger ∧
      next.seen = watch.seen := by
  have hsilent : ∀ reply : request.Reply, ∀ next, Exchange request watch.cluster reply next →
      next.ledger = watch.cluster.ledger → watch.cluster.tables.Tells request reply →
      watch.cluster.tables.shownBy request reply = [] → ∃ reply next, Watch.Answers request watch reply next ∧
        next.cluster.ledger = watch.cluster.ledger ∧ next.seen = watch.seen := by
    intro reply next hexchange hledger htells hshown
    exact ⟨reply, ⟨next, watch.seen⟩, ⟨watch.cluster, .refl, hexchange, htells, by simp [hshown]⟩, hledger, rfl⟩
  cases request with
  | startSession =>
    refine hsilent _ _ (.session (.error ⟨[]⟩)) ?_ trivial rfl
    unfold Cluster.leave
    split <;> rfl
  | startTransaction => exact hsilent _ _ (.transaction (.error ⟨[]⟩)) rfl trivial rfl
  | send place command =>
    obtain ⟨next, hexchange, hledger⟩ := send_refused watch.cluster place command
    cases place <;> exact hsilent _ _ hexchange hledger trivial rfl
  | pause span => exact hsilent _ _ (.pause span) rfl trivial rfl
  | draw => exact hsilent _ _ (.draw 0) rfl trivial rfl
  | tally count => exact hsilent _ _ (.tally count) rfl trivial rfl

theorem refused_runs (program : Program interface α) (watch : Watch) :
    ∃ value final, program.Runs Watch.Answers watch value final ∧ final.cluster.ledger = watch.cluster.ledger ∧
      final.seen = watch.seen := by
  induction program generalizing watch with
  | done value => exact ⟨value, watch, .done _ _, rfl, rfl⟩
  | ask request next ih =>
    obtain ⟨reply, between, hanswer, hledger, hseen⟩ := refused watch request
    obtain ⟨value, final, hrun, hledger', hseen'⟩ := ih reply between
    exact ⟨value, final, .ask hanswer hrun, hledger'.trans hledger, hseen'.trans hseen⟩

/-- **What a call applies in the end holds of what it has applied at any moment.** -/
theorem decides_of_ensures {program : Program interface α} {ticket : Ticket}
    (h : program.Ensures Watch.Answers watch fun _ next => next.Accounts ticket) : watch.Decides ticket := by
  obtain ⟨value, final, hrun, hledger, hseen⟩ := refused_runs program watch
  have hfinal := h value final hrun final.cluster .refl
  rwa [Watch.Decides, hledger, hseen] at hfinal

theorem ensures_later {program : Program interface α} {ticket : Ticket} {later : Cluster}
    (h : program.Ensures Watch.Answers watch fun _ next => next.Accounts ticket)
    (hlater : Relation.ReflTransGen Happens watch.cluster later) :
    program.Ensures Watch.Answers ⟨later, watch.seen⟩ fun _ next => next.Accounts ticket := by
  cases program with
  | done value =>
    rw [Program.ensures_done] at h ⊢
    exact fun further hfurther => h further (hlater.trans hfurther)
  | ask request next =>
    rw [Program.ensures_ask] at h ⊢
    rintro reply after ⟨between, hbetween, hexchanges⟩
    exact h reply after ⟨between, hlater.trans hbetween, hexchanges⟩

end Moments

end AttemptLog.Database
