import AttemptLog.Proofs.Backoff
import AttemptLog.Proofs.Database.Tables
/-!
Writes to a database are applied at most once, whatever the cluster answers.

A transaction is run again only after it was dropped, and only its commit is sent again as long as it may be applied.
What each part of the client ensures is said by `Outcome`: for the commit (`commitFrom_ensures`), for a transaction
that is run once (`transactOnce_ensures`) and for one that is run again while its failures pass (`transact_ensures`).
`exactly_once` is what follows for the queries that write.
-/
namespace AttemptLog.Database

/-! ## The commit -/

/-- what a client is told of a transaction, and how the transaction stands -/
inductive Outcome (property : Transaction → Prop) : Except Failure Unit → Cluster → Prop where
  | done {cluster : Cluster} {transaction : Transaction} (hproperty : property transaction)
    (happlied : cluster.Applied transaction) : Outcome property (.ok ()) cluster
  | undone {cluster : Cluster} (failure : Failure) (hquiet : cluster.Quiet) : Outcome property (.error failure) cluster
  | unknown {cluster : Cluster} {labels : List String} (hlabels : transientLabel ∉ labels)
    (hsent : cluster.Sent property) : Outcome property (.error (failureAt .commitTransaction labels)) cluster

section Transactions

variable {property : Transaction → Prop} {cluster : Cluster}

/-- a commit that succeeds has applied the transaction -/
theorem commit_ok {between later : Cluster} (h : between.Ready property)
    (hexchange : Exchange (.send .inside .commit) between (.ok ()) later) :
    ∃ transaction, property transaction ∧ later.Applied transaction := by
  cases hexchange with
  | inside hwork hphase => cases hwork
  | commitsNothing hidle =>
    obtain ⟨-, transaction, -, hstanding⟩ := h.cases
    rw [hidle] at hstanding
    simp at hstanding
  | commits hphase =>
    obtain ⟨hproperty, hdoubtful, hledger⟩ := h.of_pending hphase
    exact ⟨_, hproperty, rfl, hdoubtful, by simp [Cluster.apply, hledger]⟩
  | confirms hphase =>
    obtain ⟨hproperty, happlied⟩ := h.of_applied hphase
    exact ⟨_, hproperty, happlied⟩

/-- after a commit that failed, it can be sent again; if it was not dropped, the error says so -/
theorem commit_error {between later : Cluster} {fault : Fault} (h : between.Ready property)
    (hexchange : Exchange (.send .inside .commit) between (.error fault) later) :
    later.Ready property ∧ (later.Quiet ∨ transientLabel ∉ fault.labels ∧ later.Sent property) := by
  cases hexchange with
  | workFails hplace hwork hphase => cases hwork
  | @commitFails _ _ labels phase hphase =>
    generalize hbefore : between.phase = before at hphase
    cases hphase with
    | lost hnever =>
      obtain ⟨transaction, hproperty, hdoubtful, hledger⟩ := h.of_never (by rwa [hbefore])
      have hheld : Cluster.Held { between with phase := .dropped } transaction := ⟨.inr rfl, hdoubtful, hledger⟩
      exact ⟨.held hproperty hheld, .inl hheld.quiet⟩
    | @unknown _ committed hphase hlabels =>
      obtain ⟨hproperty, hdoubtful, hledger⟩ := h.of_pending (by rwa [hbefore])
      have hsent : Cluster.Sent property { between with phase := .doubtful committed } :=
        .doubtful hproperty rfl hdoubtful hledger
      exact ⟨.sent hsent, .inr ⟨hlabels, hsent⟩⟩
    | @applied committed hlabels =>
      obtain ⟨hproperty, happlied⟩ := h.of_applied hbefore
      have hsent : Cluster.Sent property { between with phase := .applied committed } :=
        .applied hproperty ⟨rfl, happlied.doubtful, happlied.ledger⟩
      exact ⟨.sent hsent, .inr ⟨hlabels, hsent⟩⟩

theorem commitFrom_ensures (retries : Nat) (h : cluster.Ready property) :
    (commitFrom retries).Ensures Cluster.Answers cluster (Outcome property) := by
  induction retries generalizing cluster with
  | zero =>
    refine ensures_send (Cluster.ready_stays property) h ?_ ?_
    · intro between reply later hready hexchange
      obtain ⟨transaction, hproperty, happlied⟩ := commit_ok hready hexchange
      exact .done hproperty happlied
    · intro between fault later hready hexchange
      rcases (commit_error hready hexchange).2 with hquiet | ⟨hlabels, hsent⟩
      · exact .undone _ hquiet
      · exact .unknown hlabels hsent
  | succ left ih =>
    refine ensures_question (Cluster.ready_stays property) h fun between reply later hready hexchange => ?_
    cases reply with
    | ok reply =>
      obtain ⟨transaction, hproperty, happlied⟩ := commit_ok hready hexchange
      exact Program.ensures_done.2 (.done hproperty happlied)
    | error fault =>
      obtain ⟨hagain, hstanding⟩ := commit_error hready hexchange
      have hend : Outcome property (.error (failureAt .commitTransaction fault.labels)) later := by
        rcases hstanding with hquiet | ⟨hlabels, hsent⟩
        · exact .undone _ hquiet
        · exact .unknown hlabels hsent
      by_cases hunknown : unknownLabel ∈ fault.labels
      · have hnext : (commitFrom left).Ensures Cluster.Answers later (Outcome property) := ih hagain
        simpa only [Program.bind, hunknown, ite_true] using hnext
      · simp only [Program.bind, hunknown, ite_false]
        exact Program.ensures_done.2 hend

/-! ## A transaction, once and again -/

theorem Cluster.Quiet.leave (h : cluster.Quiet) : cluster.leave.Quiet ∧ cluster.leave.phase = .idle := by
  have hunsent := h.unsent
  unfold Cluster.leave
  split
  · next transaction hphase =>
    rw [hphase] at hunsent
    cases hunsent
  · exact ⟨⟨rfl, h.doubtful, h.ledger⟩, rfl⟩

theorem Cluster.Quiet.abort (h : cluster.Quiet) : cluster.abort.Quiet := by
  unfold Cluster.abort
  split
  · exact ⟨rfl, h.doubtful, h.ledger⟩
  · exact h

/-- a transaction that is run once has the outcome that the client is told -/
theorem transactOnce_ensures {body : Task Unit}
    (hbody : ∀ between : Cluster, between.Quiet ∧ between.phase = .idle →
      body.run.Ensures Cluster.Answers between (BodyDone fun _ => property))
    (h : cluster.Quiet) : (transactOnce body).Ensures Cluster.Answers cluster (Outcome property) := by
  refine ensures_question Cluster.quiet_stays h fun between reply later hquiet hexchange => ?_
  cases hexchange with
  | session reply =>
    obtain ⟨hleft, hidle⟩ := hquiet.leave
    cases reply with
    | error fault => exact Program.ensures_done.2 (.undone _ hleft)
    | ok =>
      refine ensures_question Cluster.idle_stays ⟨hleft, hidle⟩ fun between reply later hbetween hexchange => ?_
      cases hexchange with
      | transaction reply =>
        cases reply with
        | error fault => exact Program.ensures_done.2 (.undone _ hbetween.1)
        | ok =>
          change Program.Ensures Cluster.Answers (Program.bind body.run _) between _
          refine Program.ensures_bind.2 ((hbody between hbetween).mono fun result later hresult => ?_)
          cases result with
          | ok value =>
            obtain ⟨transaction, hproperty, hheld⟩ := hresult
            exact commitFrom_ensures maxCommitRetries (.held hproperty hheld)
          | error failure =>
            refine ensures_question Cluster.quiet_stays hresult fun between reply later hquiet hexchange => ?_
            cases hexchange with
            | inside hwork hphase => cases hwork
            | workFails hplace hwork hphase => cases hwork
            | aborts reply => exact Program.ensures_done.2 (.undone failure hquiet.abort)

/-- a failure that passes is one of a transaction that was not applied and will not be -/
theorem Outcome.quiet {failure : Failure} (h : Outcome property (.error failure) cluster)
    (htransient : isTransient failure = true) : cluster.Quiet := by
  cases h with
  | undone failure hquiet => exact hquiet
  | unknown hlabels hsent =>
    simp only [isTransient, failureAt, List.contains_iff_mem] at htransient
    exact absurd htransient hlabels

theorem Outcome.stays {result : Except Failure Unit} : Cluster.Stays (Outcome property result) := by
  intro cluster next h hhappens
  cases h with
  | done hproperty happlied => exact .done hproperty (Cluster.applied_stays _ cluster next happlied hhappens)
  | undone failure hquiet => exact .undone failure (Cluster.quiet_stays cluster next hquiet hhappens)
  | unknown hlabels hsent => exact .unknown hlabels (Cluster.sent_stays property cluster next hsent hhappens)

/-- at most one transaction is applied -/
theorem Outcome.ledger {result : Except Failure Unit} (h : Outcome property result cluster) :
    cluster.ledger.length ≤ 1 ∧ ∀ transaction ∈ cluster.ledger, property transaction := by
  have hnone : cluster.ledger = [] →
      cluster.ledger.length ≤ 1 ∧ ∀ transaction ∈ cluster.ledger, property transaction := by
    intro hledger
    simp [hledger]
  have hone : ∀ transaction, property transaction → cluster.Applied transaction →
      cluster.ledger.length ≤ 1 ∧ ∀ transaction ∈ cluster.ledger, property transaction := by
    intro transaction hproperty happlied
    simp [happlied.ledger, hproperty]
  cases h with
  | done hproperty happlied => exact hone _ hproperty happlied
  | undone failure hquiet => exact hnone hquiet.ledger
  | unknown hlabels hsent =>
    cases hsent with
    | doubtful hproperty hphase hdoubtful hledger => exact hnone hledger
    | applied hproperty happlied => exact hone _ hproperty happlied

/-- what a transaction comes to that is run again while its failures pass; there is no result if a wait is too long -/
def RetryDone (property : Transaction → Prop) : Option (Except Failure Unit) → Cluster → Prop
  | some result, cluster => Outcome property result cluster
  | none, cluster => cluster.Quiet

theorem wait_ensures (backoff : Backoff) {again : Span → Program interface (Option (Except Failure Unit))}
    (hagain : ∀ (delay : Span) (between : Cluster), between.Quiet →
      (again delay).Ensures Cluster.Answers between (RetryDone property))
    (delay : Span) (drawn : UInt64) (h : cluster.Quiet) :
    Program.Ensures Cluster.Answers
      (match backoff.wait? delay drawn with
        | none => .done none
        | some wait => .ask (I := interface) (.pause wait) fun _ =>
          match backoff.nextDelay? delay with
          | none => .done none
          | some delay => again delay)
      cluster (RetryDone property) := by
  cases backoff.wait? delay drawn with
  | none => exact Program.ensures_done.2 h
  | some wait =>
    refine ensures_question Cluster.quiet_stays h fun between reply later hquiet hexchange => ?_
    cases hexchange
    cases backoff.nextDelay? delay with
    | none => exact Program.ensures_done.2 hquiet
    | some delay' => exact hagain delay' between hquiet

theorem retryFrom_ensures (backoff : Backoff) {call : Program interface (Except Failure Unit)}
    (hcall : ∀ between : Cluster, between.Quiet → call.Ensures Cluster.Answers between (Outcome property))
    (left : Nat) (delay : Span) (h : cluster.Quiet) :
    (backoff.retryFrom isTransient (Program.query (I := interface) .draw)
      (fun span => Program.query (I := interface) (.pause span)) call left delay).Ensures Cluster.Answers cluster
        (RetryDone property) := by
  induction left generalizing cluster delay with
  | zero =>
    change Program.Ensures Cluster.Answers (Program.bind call fun result => .done (some result)) cluster _
    exact Program.ensures_bind.2 ((hcall cluster h).mono fun result later houtcome => Program.ensures_done.2 houtcome)
  | succ left ih =>
    change Program.Ensures Cluster.Answers (Program.bind call _) cluster _
    refine Program.ensures_bind.2 ((hcall cluster h).mono fun result later houtcome => ?_)
    cases result with
    | ok value => exact Program.ensures_done.2 houtcome
    | error failure =>
      cases htransient : isTransient failure with
      | false =>
        simp only [htransient, Bool.not_false, ite_true]
        exact Program.ensures_done.2 houtcome
      | true =>
        have hquiet := houtcome.quiet htransient
        have hagain := fun delay (between : Cluster) (hbetween : between.Quiet) => ih delay hbetween
        simp only [htransient, Bool.not_true, Bool.false_eq_true, ite_false]
        by_cases hjitter : backoff.jitterMillis = 0
        · simp only [hjitter, ite_true]
          exact wait_ensures backoff hagain delay 0 hquiet
        · simp only [hjitter, ite_false]
          refine ensures_question Cluster.quiet_stays hquiet fun between drawn later' hquiet' hexchange => ?_
          cases hexchange
          exact wait_ensures backoff hagain delay drawn hquiet'

theorem transact_ensures {body : Task Unit}
    (hbody : ∀ between : Cluster, between.Quiet ∧ between.phase = .idle →
      body.run.Ensures Cluster.Answers between (BodyDone fun _ => property))
    (h : cluster.Quiet) : (transact body).Ensures Cluster.Answers cluster (Outcome property) := by
  have hcall : ∀ between : Cluster, between.Quiet →
      (transactOnce body).Ensures Cluster.Answers between (Outcome property) := fun between hquiet =>
    transactOnce_ensures hbody hquiet
  change Program.Ensures Cluster.Answers
    (Program.bind (Backoff.transaction.retry isTransient _ _ (transactOnce body)) _) cluster _
  refine Program.ensures_bind.2 ((retryFrom_ensures Backoff.transaction hcall _ _ h).mono fun result later hdone => ?_)
  cases result with
  | none => exact Program.ensures_done.2 (.undone _ hdone)
  | some result => exact Program.ensures_done.2 hdone

theorem tracked_ensures {operation table : String} {work : Program interface (Except Failure Unit)}
    (hwork : work.Ensures Cluster.Answers cluster (Outcome property)) :
    (tracked operation table work).Ensures Cluster.Answers cluster (Outcome property) := by
  change Program.Ensures Cluster.Answers (Program.bind work _) cluster _
  refine Program.ensures_bind.2 (hwork.mono fun result later houtcome => ?_)
  refine ensures_question Outcome.stays houtcome fun between reply later' houtcome' hexchange => ?_
  cases hexchange
  exact Program.ensures_done.2 houtcome'

end Transactions

/-! ## Runs in which something fails -/

section Commits

variable {tables : Tables} {command : Command}

theorem answers_first (hwork : command.isWork = true) :
    Cluster.Answers (.send .first command) (Cluster.start tables) (execute tables command).1
      { Cluster.start tables with phase := .active ((Transaction.begun tables).after command) } :=
  ⟨_, .refl, .first hwork rfl⟩

theorem answers_inside {transaction : Transaction} {reply : Except Fault command.Reply}
    (hreply : (execute transaction.tables command).1 = reply) (hwork : command.isWork = true) :
    Cluster.Answers (.send .inside command) { Cluster.start tables with phase := .active transaction } reply
      { Cluster.start tables with phase := .active (transaction.after command) } := by
  subst hreply
  exact ⟨_, .refl, .inside hwork rfl⟩

/-- a commit whose reply was lost is sent again and confirmed -/
theorem commitFrom_runs {transaction : Transaction} (htakes : tables.takes transaction.writes = true) :
    (commitFrom maxCommitRetries).Runs Cluster.Answers { Cluster.start tables with phase := .active transaction }
      (.ok ()) ((Cluster.start tables).apply transaction) := by
  have hlabels : transientLabel ∉ [unknownLabel] := by simp [transientLabel, unknownLabel]
  refine .ask ⟨_, .refl, .commitFails (.unknown (.inl rfl) hlabels)⟩ ?_
  simp only [Program.bind, List.mem_singleton, ite_true]
  exact .ask ⟨_, .single (.settles rfl htakes), .confirms rfl⟩ (.done _ _)

/-- a transaction is dropped when its commit is sent -/
theorem commitFrom_drops (transaction : Transaction) :
    (commitFrom maxCommitRetries).Runs Cluster.Answers { Cluster.start tables with phase := .active transaction }
      (.error (failureAt .commitTransaction [transientLabel])) { Cluster.start tables with phase := .dropped } := by
  have hlabels : unknownLabel ∉ [transientLabel] := by simp [transientLabel, unknownLabel]
  have hanswer : Cluster.Answers (.send .inside .commit) { Cluster.start tables with phase := .active transaction }
      (.error ⟨[transientLabel]⟩) { Cluster.start tables with phase := .dropped } :=
    ⟨_, .refl, .commitFails (.lost nofun)⟩
  refine .ask hanswer ?_
  simp only [Program.bind, hlabels, ite_false]
  exact .done _ _

/-- a transaction whose body succeeds in a new session comes to what its commit comes to -/
theorem transactOnce_runs {cluster later : Cluster} {body : Task Unit} {transaction : Transaction}
    {result : Except Failure Unit} (hleave : cluster.leave = Cluster.start tables)
    (hbody : body.run.Runs Cluster.Answers (Cluster.start tables) (.ok ())
      { Cluster.start tables with phase := .active transaction })
    (hcommit : (commitFrom maxCommitRetries).Runs Cluster.Answers
      { Cluster.start tables with phase := .active transaction } result later) :
    (transactOnce body).Runs Cluster.Answers cluster result later := by
  refine .ask ⟨_, .refl, .session (.ok ())⟩ ?_
  rw [hleave]
  refine .ask ⟨_, .refl, .transaction (.ok ())⟩ ?_
  change Program.Runs Cluster.Answers (Program.bind body.run _) _ _ _
  exact .bind hbody hcommit

section Rules

variable {σ : Type} {behaviour : Behaviour interface σ} {state between later : σ}

theorem retryFrom_runs {call : Program interface (Except Failure Unit)} (backoff : Backoff)
    (hcall : call.Runs behaviour state (.ok ()) later) (left : Nat) (delay : Span) :
    (backoff.retryFrom isTransient (Program.query (I := interface) .draw)
      (fun span => Program.query (I := interface) (.pause span)) call left delay).Runs behaviour state (some (.ok ()))
        later := by
  cases left with
  | zero => exact .bind hcall (.done _ _)
  | succ left => exact .bind hcall (.done _ _)

theorem transact_runs {body : Task Unit} (honce : (transactOnce body).Runs behaviour state (.ok ()) later) :
    (transact body).Runs behaviour state (.ok ()) later :=
  .bind (retryFrom_runs Backoff.transaction honce _ _) (.done _ _)

theorem wait_runs {backoff : Backoff} {delay : Span} (hfits : backoff.Fits delay.nanos) (drawn : UInt64)
    {again : Span → Program interface (Option (Except Failure Unit))}
    (hpause : ∀ span, behaviour (.pause span) state () state)
    (hagain : ∀ next, (again next).Runs behaviour state (some (.ok ())) later) :
    Program.Runs behaviour
      (match backoff.wait? delay drawn with
        | none => .done none
        | some wait => .ask (I := interface) (.pause wait) fun _ =>
          match backoff.nextDelay? delay with
          | none => .done none
          | some delay => again delay)
      state (some (.ok ())) later := by
  obtain ⟨wait, hwait, -⟩ := (hfits.computes drawn).wait?_eq
  obtain ⟨next, hnext, -⟩ := (hfits.computes drawn).nextDelay?_eq
  simp only [hwait, hnext]
  exact .ask (hpause wait) (hagain next)

/-- what fails in a way that passes is called again after a wait -/
theorem retryFrom_runs_again {call : Program interface (Except Failure Unit)} {backoff : Backoff} {delay : Span}
    {failure : Failure} (hfits : backoff.Fits delay.nanos) (hjitter : backoff.jitterMillis ≠ 0)
    (htransient : isTransient failure = true) (hcall : call.Runs behaviour state (.error failure) between)
    (hdraw : behaviour .draw between (0 : UInt64) between) (hpause : ∀ span, behaviour (.pause span) between () between)
    (hagain : call.Runs behaviour between (.ok ()) later) (left : Nat) :
    (backoff.retryFrom isTransient (Program.query (I := interface) .draw)
      (fun span => Program.query (I := interface) (.pause span)) call (left + 1) delay).Runs behaviour state
        (some (.ok ())) later := by
  refine .bind hcall ?_
  simp only [htransient, hjitter, Bool.not_true, Bool.false_eq_true, ite_false]
  exact .ask hdraw (wait_runs hfits 0 hpause fun next => retryFrom_runs backoff hagain left next)

/-- a transaction whose failure passes is run again after a wait -/
theorem transact_runs_again {body : Task Unit} {failure : Failure} (htransient : isTransient failure = true)
    (honce : (transactOnce body).Runs behaviour state (.error failure) between)
    (hdraw : behaviour .draw between (0 : UInt64) between) (hpause : ∀ span, behaviour (.pause span) between () between)
    (hagain : (transactOnce body).Runs behaviour between (.ok ()) later) :
    (transact body).Runs behaviour state (.ok ()) later :=
  .bind (retryFrom_runs_again (Backoff.transaction_bounded.fits Backoff.transaction_bounded.base) (by decide) htransient
    honce hdraw hpause hagain 1) (.done _ _)

theorem readLast_runs {tables : Tables} {id : String} {last : Step} (hlast : tables.lastStep? id = some last)
    (hanswer : ∀ documents : List Document,
      found (tables.documents stepTable) [("attempt_id", id)] (some ⟨"sequence_number", true⟩) (some 1) = documents →
      behaviour (.send .first (.find stepTable [("attempt_id", id)] (some ⟨"sequence_number", true⟩) (some 1))) state
        (.ok documents) between) :
    (readLast id).run.Runs behaviour state (.ok last) between := by
  cases hfound : found (tables.documents stepTable) [("attempt_id", id)] (some ⟨"sequence_number", true⟩) (some 1) with
  | nil => simp [Tables.lastStep?, hfound] at hlast
  | cons document rest =>
    have hstep : step? document = some last := by simpa [Tables.lastStep?, hfound] using hlast
    have hread : readFirst .readLastStep step? (document :: rest) = .ok (some last) := by simp only [readFirst, hstep]
    refine .bind (.ask (hanswer _ hfound) (.done _ _)) ?_
    simp only [ExceptT.bindCont, hread]
    exact .done _ _

/-- a step is added after the last one -/
theorem changeBody_runs {id : String} {last step : Step} {change : Change}
    (hread : (readLast id).run.Runs behaviour state (.ok last) between) (hremoved : change.removed = none)
    (happended : change.appended = some step)
    (hinsert : behaviour (.send .inside (.insert stepTable step.toJson)) between (.ok ()) later) :
    (changeBody id last.id change).run.Runs behaviour state (.ok ()) later := by
  refine .bind hread ?_
  simp only [ExceptT.bindCont, hremoved, happended]
  exact .ask hinsert (.done _ _)

end Rules

theorem insert_ok {table : String} {document : Document} (h : (tables.documents table).any (collide document) = false) :
    (execute tables (.insert table document)).1 = .ok () := by
  rw [execute, if_neg (by simp [h])]

/-- putting an attempt into its table does not get into the way of its first step -/
theorem insert_made_ok (attempt : Document) {first : Document}
    (hfirst : (tables.documents stepTable).any (collide first) = false) :
    (execute ((Transaction.begun tables).after (.insert attemptTable attempt)).tables (.insert stepTable first)).1 =
      .ok () := by
  have hother : stepTable ≠ attemptTable := by simp [attemptTable, stepTable]
  refine insert_ok ?_
  rw [← hfirst]
  exact congrArg (List.any · (collide first)) (documents_insert tables attempt hother)

/-- an attempt is created in tables in which nothing stands in the way of it and of its first step, although the reply
to its commit is lost -/
theorem create_runs (attempt : Attempt) (first : Step)
    (hattempt : (tables.documents attemptTable).any (collide attempt.toJson) = false)
    (hfirst : (tables.documents stepTable).any (collide first.toJson) = false) :
    ∃ transaction, (answer (.create attempt first)).Runs Cluster.Answers (Cluster.start tables) (.ok ())
      ((Cluster.start tables).apply transaction) := by
  have hsound := ((Transaction.begun_isSound tables).after (.insert attemptTable attempt.toJson)).after
    (.insert stepTable first.toJson)
  have hanswer := @answers_first tables (.insert attemptTable attempt.toJson) rfl
  rw [insert_ok hattempt] at hanswer
  have hbody : (createBody attempt first).run.Runs Cluster.Answers (Cluster.start tables) (.ok ()) _ :=
    .ask hanswer (.ask (answers_inside (insert_made_ok attempt.toJson hfirst) rfl) (.done _ _))
  have honce := @transactOnce_runs tables (Cluster.start tables) _ _ _ _ rfl hbody (commitFrom_runs hsound.takes)
  exact ⟨_, .bind (transact_runs honce) (.ask ⟨_, .refl, .tally _⟩ (.done _ _))⟩

/-- a step is added after the expected one although its transaction is dropped at first, and the reply to the commit is
lost when it is run again -/
theorem append_runs {id : String} {last step : Step} {change : Change} (hlast : tables.lastStep? id = some last)
    (hremoved : change.removed = none) (happended : change.appended = some step)
    (hfree : (tables.documents stepTable).any (collide step.toJson) = false) :
    ∃ transaction, (answer (.commit id last.id change)).Runs Cluster.Answers (Cluster.start tables) (.ok ())
      ((Cluster.start tables).apply transaction) := by
  have hchange : change.isEmpty = false := by simp [Change.isEmpty, happended]
  have hsound := (Transaction.begun_isSound tables).after (.insert stepTable step.toJson)
  have hbody : (changeBody id last.id change).run.Runs Cluster.Answers (Cluster.start tables) (.ok ())
      { Cluster.start tables with
        phase := .active ((Transaction.begun tables).after (.insert stepTable step.toJson)) } := by
    refine changeBody_runs (readLast_runs hlast fun documents hdocuments => ?_) hremoved happended
      (answers_inside (insert_ok hfree) rfl)
    rw [← hdocuments]
    exact answers_first rfl
  have hdropped := @transactOnce_runs tables (Cluster.start tables) _ _ _ _ rfl hbody (commitFrom_drops _)
  have hagain := @transactOnce_runs tables { Cluster.start tables with phase := .dropped } _ _ _ _ rfl hbody
    (commitFrom_runs hsound.takes)
  refine ⟨(Transaction.begun tables).after (.insert stepTable step.toJson), ?_⟩
  simp only [answer, hchange, Bool.false_eq_true, ite_false]
  exact .bind (transact_runs_again rfl hdropped ⟨_, .refl, .draw 0⟩ (fun span => ⟨_, .refl, .pause span⟩) hagain)
    (.ask ⟨_, .refl, .tally _⟩ (.done _ _))

end Commits

/-! ## Queries -/

theorem quiet_start (tables : Tables) : (Cluster.start tables).Quiet := ⟨rfl, rfl, rfl⟩

theorem writesOf_ne_nil {id expected : String} {change : Change} (h : change.isEmpty = false) :
    writesOf (.commit id expected change) ≠ [] := by
  cases hremoved : change.removed with
  | some removed => simp [writesOf, hremoved]
  | none =>
    cases happended : change.appended with
    | some step => simp [writesOf, happended]
    | none => simp [Change.isEmpty, hremoved, happended] at h

/-- a query that writes has the outcome that the client is told -/
theorem answer_ensures (query : Query) (hwrites : writesOf query ≠ []) {cluster : Cluster} (h : cluster.Quiet) :
    (answer query).Ensures Cluster.Answers cluster fun result after =>
      Outcome (·.Fulfils query) (result.map fun _ => ()) after := by
  cases query with
  | find id => exact absurd rfl hwrites
  | load id => exact absurd rfl hwrites
  | ping => exact absurd rfl hwrites
  | create attempt first =>
    refine (tracked_ensures (transact_ensures (fun between hbetween => createBody_ensures attempt first hbetween)
      h)).mono fun result later houtcome => ?_
    cases result with
    | ok value => exact houtcome
    | error failure => exact houtcome
  | commit id expected change =>
    have hchange : change.isEmpty = false := by
      by_contra hempty
      simp only [Change.isEmpty, Bool.not_eq_false, Bool.and_eq_true, Option.isNone_iff_eq_none] at hempty
      simp [writesOf, hempty.1, hempty.2] at hwrites
    simp only [answer, hchange, Bool.false_eq_true, ite_false]
    refine (tracked_ensures (transact_ensures (fun between hbetween => changeBody_ensures id expected change hbetween)
      h)).mono fun result later houtcome => ?_
    cases result with
    | ok value => exact houtcome
    | error failure => exact houtcome

/-- **Writes are applied at most once, and a client that is told so can rely on it.** Let a client make a query that
writes, let the cluster answer as it likes, and let anything happen afterwards.

- At most one transaction is ever applied; it has made all writes of the query, and the last step that it saw was the
  expected one.
- If the client is told that the query succeeded, one was applied, and it was applied by then.
- If the client is told of a failure, none was and none will be, unless it is a failure of the commit whose labels
  leave that open. -/
theorem exactly_once {query : Query} (hwrites : writesOf query ≠ []) {tables : Tables}
    {result : Except Failure query.Answer} {after later : Cluster}
    (hrun : (answer query).Runs Cluster.Answers (Cluster.start tables) result after)
    (hlater : Relation.ReflTransGen Happens after later) :
    later.ledger.length ≤ 1 ∧ (∀ transaction ∈ later.ledger, transaction.Fulfils query) ∧
      (∀ value, result = .ok value → ∃ transaction, after.ledger = [transaction] ∧ later.ledger = [transaction]) ∧
      ∀ failure, result = .error failure →
        later.ledger = [] ∨ ∃ labels, failure = failureAt .commitTransaction labels ∧ transientLabel ∉ labels := by
  have houtcome := answer_ensures query hwrites (quiet_start tables) result after hrun
  have hend := Outcome.stays.later hlater houtcome
  refine ⟨hend.ledger.1, hend.ledger.2, ?_, ?_⟩
  · rintro value rfl
    cases houtcome with
    | @done _ transaction hproperty happlied =>
      have happlied' := (Cluster.applied_stays transaction).later hlater happlied
      exact ⟨transaction, happlied.ledger, happlied'.ledger⟩
  · rintro failure rfl
    cases hend with
    | undone failure hquiet => exact .inl hquiet.ledger
    | unknown hlabels hsent => exact .inr ⟨_, rfl, hlabels⟩

/-- a new attempt is put into empty tables although the reply to its commit is lost; a step is added to it although its
transaction is dropped at first; and others write afterwards -/
theorem exactly_once_create :
    ∃ (attempt : Attempt) (first : Step) (change : Change) (created added later : Cluster) (made given : Transaction),
      let create : Query := .create attempt first
      let commit : Query := .commit attempt.id first.id change
      (writesOf create ≠ [] ∧ (answer create).Runs Cluster.Answers (Cluster.start Keyed.empty) (.ok ()) created ∧
        created.ledger = [made] ∧ made.Fulfils create) ∧
      writesOf commit ≠ [] ∧ (answer commit).Runs Cluster.Answers (Cluster.start created.tables) (.ok ()) added ∧
        Relation.ReflTransGen Happens added later ∧ later.ledger = [given] ∧ given.Fulfils commit := by
  let attempt : Attempt := ⟨"attempt", "question", "user", .year2024⟩
  let history := History.start "attempt" ⟨"first", .year2024⟩
  let decision := history.push Keyed.empty .complete ⟨"second", .year2024⟩
  have hcreates : writesOf (.create attempt history.current) ≠ [] := by simp [writesOf]
  have hcommits : writesOf (.commit "attempt" "first" decision.change) ≠ [] := writesOf_ne_nil rfl
  -- the attempt is created
  obtain ⟨made, hcreate⟩ := @create_runs Keyed.empty attempt history.current rfl rfl
  obtain ⟨-, hmade, -, -⟩ := exactly_once hcreates hcreate .refl
  have hfulfils := hmade made (List.mem_singleton_self made)
  let tables : Tables := made.applyTo Keyed.empty
  have hsteps : tables.documents stepTable = [history.current].map Step.toJson := by
    rw [show tables = (writesOf (.create attempt history.current)).foldl Tables.after Keyed.empty from
      congrArg (List.foldl Tables.after Keyed.empty) hfulfils.writes]
    exact (documents_created rfl rfl).2
  -- a step is added
  have hlast : tables.lastStep? "attempt" = some history.current :=
    (Tables.holds_of_documents hsteps).lastStep?_eq (.singleton rfl)
  have hfree : (tables.documents stepTable).any (collide decision.history.current.toJson) = false := by
    rw [hsteps]
    rfl
  obtain ⟨given, hcommit⟩ := @append_runs tables _ _ _ decision.change hlast rfl rfl hfree
  have hlater : Relation.ReflTransGen Happens ((Cluster.start tables).apply given) _ := .single (.others Keyed.empty)
  obtain ⟨-, hgiven, -, -⟩ := exactly_once hcommits hcommit hlater
  exact ⟨attempt, history.current, decision.change, _, _, _, made, given, ⟨hcreates, hcreate, rfl, hfulfils⟩, hcommits,
    hcommit, hlater, rfl, hgiven given (List.mem_singleton_self given)⟩

end AttemptLog.Database
