import AttemptLog.Database.Store
import AttemptLog.Proofs.Backoff
import AttemptLog.Proofs.Dialogue
/-!
How transactions are run again.

Two loops stand inside each other: a transaction is run again from the start while its failures pass, and within one
run the commit is sent again while it is not known whether it was applied. `Tries` is the form of one run, from the
start of the session to the abort or the last commit, and `Disciplined` that of all runs of one query, whatever the
database replies. `retries_disciplined` says that the queries that write keep to it.
-/
namespace AttemptLog

namespace Database

def Request.isCall : Request → Bool
  | .startSession => true
  | .startTransaction => true
  | .send _ _ => true
  | .pause _ => false
  | .draw => false
  | .tally _ => false

/-- what is asked of a database, with the replies -/
abbrev Talk := List (Told interface)

/-! ## The form of a dialogue -/

/-- a command of a transaction's body, and what the body makes of its reply -/
structure Part where
  place : Place
  command : Command
  verdict : Except Fault command.Reply → Except Failure Unit

def succeeds {α : Type} (stage : Stage) : Except Fault α → Except Failure Unit
  | .ok _ => .ok ()
  | .error fault => .error (failureAt stage fault.labels)

/-- the last step of an attempt among the documents that were found -/
def readsLast (id : String) : Except Fault (List Document) → Except Failure Step
  | .error fault => .error (failureAt .readLastStep fault.labels)
  | .ok documents =>
    match readFirst .readLastStep step? documents with
    | .error failure => .error failure
    | .ok none => .error (.notFound id)
    | .ok (some last) => .ok last

/-- the last step has to be the expected one -/
def findsLast (id expected : String) (reply : Except Fault (List Document)) : Except Failure Unit :=
  match readsLast id reply with
  | .error failure => .error failure
  | .ok last => if last.id = expected then .ok () else .error (.conflict expected last.id)

def deletesOne (removed expected : String) : Except Fault Nat → Except Failure Unit
  | .error fault => .error (failureAt .deleteDraft fault.labels)
  | .ok deleted => if deleted = 1 then .ok () else .error (.conflict removed expected)

def createParts (attempt : Attempt) (first : Step) : List Part :=
  [⟨.first, .insert attemptTable attempt.toJson, succeeds .insertAttempt⟩,
    ⟨.inside, .insert stepTable first.toJson, succeeds .insertFirstStep⟩]

/-- the parts of the body that carries out a change: the last step is read, then one is taken away, then one is added -/
def changeParts (id expected : String) (change : Change) : List Part :=
  ⟨.first, .find stepTable [("attempt_id", id)] (some ⟨"sequence_number", true⟩) (some 1), findsLast id expected⟩ ::
    ((change.removed.map fun removed =>
        ⟨.inside, .delete stepTable [("_id", removed), ("attempt_id", id)], deletesOne removed expected⟩).toList ++
      (change.appended.map fun step => ⟨.inside, .insert stepTable step.toJson, succeeds .insertStep⟩).toList)

/-- the parts of a body are performed in order, up to the first one that fails -/
inductive Performs : List Part → Talk → Except Failure Unit → Prop where
  | nothing : Performs [] [] (.ok ())
  | fails {part : Part} {parts : List Part} {reply : Except Fault part.command.Reply} {failure : Failure}
    (hverdict : part.verdict reply = .error failure) :
    Performs (part :: parts) [⟨.send part.place part.command, reply⟩] (.error failure)
  | goes {part : Part} {parts : List Part} {reply : Except Fault part.command.Reply} {rest : Talk}
    {result : Except Failure Unit} (hverdict : part.verdict reply = .ok ()) (hrest : Performs parts rest result) :
    Performs (part :: parts) (⟨.send part.place part.command, reply⟩ :: rest) result

def CommitSent (talk : Talk) (reply : Except Fault Unit) : Prop := talk = [⟨.send .inside .commit, reply⟩]

/-- what a client is told of a transaction whose last commit had this reply -/
def committed (reply : Except Fault Unit) : Except Failure Unit :=
  reply.mapError fun fault => failureAt .commitTransaction fault.labels

/-- does an error leave open whether a commit was applied -/
def Fault.IsUnknown (fault : Fault) : Prop := unknownLabel ∈ fault.labels

/-- can a transaction that failed in this way be run again -/
def Passes (failure : Failure) : Prop :=
  ∃ stage labels, failure = .storage (.database stage labels) ∧ transientLabel ∈ labels

def opening : Talk := [⟨.startSession, .ok ()⟩, ⟨.startTransaction, .ok ()⟩]

/-- a transaction with a body of these parts is run once -/
inductive Tries (parts : List Part) : Talk → Except Failure Unit → Prop where
  | sessionFails (fault : Fault) :
    Tries parts [⟨.startSession, .error fault⟩] (.error (failureAt .startSession fault.labels))
  | transactionFails (fault : Fault) :
    Tries parts [⟨.startSession, .ok ()⟩, ⟨.startTransaction, .error fault⟩]
      (.error (failureAt .startTransaction fault.labels))
  | aborts {body : Talk} {failure : Failure} (hbody : Performs parts body (.error failure))
    (reply : Except Fault Unit) :
    Tries parts (opening ++ body ++ [⟨.send .inside .abort, reply⟩]) (.error failure)
  | commits {body commits : Talk} {reply : Except Fault Unit} (hbody : Performs parts body (.ok ()))
    (hcommits : Repeats CommitSent Fault.IsUnknown 3 commits reply) :
    Tries parts (opening ++ body ++ commits) (committed reply)

/-- a transaction with a body of these parts is run once, and again while its failures pass, but not more than three
times -/
abbrev Disciplined (parts : List Part) : Talk → Except Failure Unit → Prop := Repeats (Tries parts) Passes 2

theorem isTransient_iff {failure : Failure} : isTransient failure = true ↔ Passes failure := by
  constructor
  · intro h
    unfold isTransient at h
    split at h
    · next stage labels => exact ⟨stage, labels, rfl, List.contains_iff_mem.1 h⟩
    · cases h
  · rintro ⟨stage, labels, rfl, hlabel⟩
    exact List.contains_iff_mem.2 hlabel

/-! ## Bodies -/

/-- a command whose reply is read, and the parts after it; what was read may have to be refused -/
theorem says_read {α : Type} {place : Place} {command : Command} {first : Task α} {go : α → Task Unit}
    {reads : Except Fault command.Reply → Except Failure α} {verdict : Except Fault command.Reply → Except Failure Unit}
    {parts : List Part}
    (hfirst : first.run = Program.ask (I := interface) (.send place command) fun reply => .done (reads reply))
    (herror : ∀ reply failure, reads reply = .error failure → verdict reply = .error failure)
    (hok : ∀ reply value, reads reply = .ok value →
      (∃ failure, verdict reply = .error failure ∧ (go value).run = .done (.error failure)) ∨
        verdict reply = .ok () ∧ (go value).run.Says Request.isCall (Performs parts)) :
    (first >>= go).run.Says Request.isCall (Performs (⟨place, command, verdict⟩ :: parts)) := by
  change (first.run.bind (ExceptT.bindCont go)).Says _ _
  rw [hfirst]
  refine (Program.says_ask rfl).2 fun reply => ?_
  simp only [Program.bind]
  cases hread : reads reply with
  | error failure => exact .fails (herror reply failure hread)
  | ok value =>
    rcases hok reply value hread with ⟨failure, hverdict, hrun⟩ | ⟨hverdict, hsays⟩
    · change (go value).run.Says _ _
      rw [hrun]
      exact .fails hverdict
    · exact hsays.mono fun rest result hrest => .goes hverdict hrest

/-- a command that has to succeed, and the parts after it -/
theorem says_succeeds {stage : Stage} {place : Place} {command : Command} {parts : List Part}
    {next : Request.Reply (.send place command) → Program interface (Except Failure Unit)}
    (herror : ∀ fault, next (.error fault) = .done (.error (failureAt stage fault.labels)))
    (hok : ∀ value, (next (.ok value)).Says Request.isCall (Performs parts)) :
    (Program.ask (I := interface) (.send place command) next).Says Request.isCall
      (Performs (⟨place, command, succeeds stage⟩ :: parts)) := by
  refine (Program.says_ask rfl).2 fun reply => ?_
  cases reply with
  | error fault =>
    rw [herror]
    exact .fails rfl
  | ok value => exact (hok value).mono fun rest result hrest => .goes rfl hrest

theorem createBody_dialogue (attempt : Attempt) (first : Step) :
    (createBody attempt first).run.Says Request.isCall (Performs (createParts attempt first)) := by
  refine says_succeeds (fun fault => rfl) fun value => ?_
  exact says_succeeds (fun fault => rfl) fun value => .nothing

theorem readLast_run (id : String) : (readLast id).run = Program.ask (I := interface)
    (.send .first (.find stepTable [("attempt_id", id)] (some ⟨"sequence_number", true⟩) (some 1)))
    fun reply => .done (readsLast id reply) := by
  refine congrArg (Program.ask (I := interface) _) (funext fun reply => ?_)
  cases reply with
  | error fault => rfl
  | ok documents =>
    change ExceptT.run (liftM (readFirst .readLastStep step? documents) >>= _) = _
    simp only [readsLast]
    rcases readFirst .readLastStep step? documents with failure | _ | last
    · rfl
    · rfl
    · rfl

theorem removeStep_run (id : String) (last : Step) (removed : String) :
    (removeStep id last removed).run = Program.ask (I := interface)
      (.send .inside (.delete stepTable [("_id", removed), ("attempt_id", id)]))
      fun reply => .done (deletesOne removed last.id reply) := by
  refine congrArg (Program.ask (I := interface) _) (funext fun (reply : Except Fault Nat) => ?_)
  cases reply with
  | error fault => rfl
  | ok deleted =>
    change ExceptT.run (if deleted = 1 then pure () else throw (.conflict removed last.id) : Task Unit) =
      .done (deletesOne removed last.id (.ok deleted))
    simp only [deletesOne]
    split
    · rfl
    · rfl

theorem appendStep_dialogue (appended : Option Step) :
    (match appended with
      | some step => send .insertStep .inside (.insert stepTable step.toJson)
      | none => pure () : Task Unit).run.Says Request.isCall
        (Performs (appended.map fun step =>
          ⟨.inside, .insert stepTable step.toJson, succeeds .insertStep⟩).toList) := by
  cases appended with
  | none => exact .nothing
  | some step => exact says_succeeds (fun fault => rfl) fun value => .nothing

theorem changeBody_dialogue (id expected : String) (change : Change) :
    (changeBody id expected change).run.Says Request.isCall (Performs (changeParts id expected change)) := by
  refine says_read (readLast_run id) ?_ ?_
  · intro reply failure hread
    simp only [findsLast, hread]
  · intro reply last hread
    by_cases hexpected : last.id = expected
    · refine .inr ⟨by simp only [findsLast, hread, hexpected, ite_true], ?_⟩
      simp only [hexpected, ite_true]
      cases hremoved : change.removed with
      | none => exact appendStep_dialogue change.appended
      | some removed =>
        refine says_read (removeStep_run id last removed) ?_ ?_
        · intro reply failure hdeleted
          rwa [hexpected] at hdeleted
        · intro reply value hdeleted
          rw [hexpected] at hdeleted
          exact .inr ⟨hdeleted, appendStep_dialogue change.appended⟩
    · refine .inl ⟨.conflict expected last.id, by simp only [findsLast, hread, hexpected, ite_false], ?_⟩
      simp only [hexpected, ite_false]
      rfl

/-! ## Transactions -/

/-- a commit is sent again as long as it is not known whether it was applied -/
theorem commitFrom_dialogue (most : Nat) :
    (commitFrom most).Says Request.isCall fun talk result =>
      ∃ reply, Repeats CommitSent Fault.IsUnknown most talk reply ∧ result = committed reply := by
  induction most with
  | zero =>
    refine (Program.says_ask rfl).2 fun reply => ?_
    cases reply with
    | ok value => exact ⟨.ok (), Repeats.only rfl, rfl⟩
    | error fault => exact ⟨.error fault, Repeats.only rfl, rfl⟩
  | succ most ih =>
    refine (Program.says_ask rfl).2 fun reply => ?_
    cases reply with
    | ok value =>
      refine ⟨.ok (), Repeats.last rfl ?_, rfl⟩
      rintro fault ⟨⟩
    | error fault =>
      by_cases hunknown : unknownLabel ∈ fault.labels
      · have hpasses : fault.IsUnknown := hunknown
        simp only [Program.bind, hunknown, ite_true]
        refine ih.mono ?_
        rintro rest result ⟨reply, hrest, rfl⟩
        exact ⟨reply, Repeats.again rfl hpasses hrest, rfl⟩
      · simp only [Program.bind, hunknown, ite_false]
        refine ⟨.error fault, Repeats.last rfl ?_, rfl⟩
        rintro other ⟨⟩
        exact hunknown

variable {body : Task Unit} {parts : List Part}

theorem transactOnce_dialogue (hbody : body.run.Says Request.isCall (Performs parts)) :
    (transactOnce body).Says Request.isCall (Tries parts) := by
  refine (Program.says_ask rfl).2 fun reply => ?_
  cases reply with
  | error fault => exact .sessionFails fault
  | ok value =>
    refine (Program.says_ask rfl).2 fun reply => ?_
    cases reply with
    | error fault => exact .transactionFails fault
    | ok value =>
      change (body.run.bind _).Says _ _
      refine Program.says_bind.2 (hbody.mono fun talk result hperforms => ?_)
      cases result with
      | ok value =>
        refine (commitFrom_dialogue maxCommitRetries).mono ?_
        rintro rest result ⟨reply, hcommits, rfl⟩
        exact .commits hperforms hcommits
      | error failure => exact (Program.says_ask rfl).2 fun reply => .aborts hperforms reply

section Again

variable {backoff : Backoff} {delay : Span} {call : Program interface (Except Failure Unit)}
  {once : Talk → Except Failure Unit → Prop}

theorem wait_dialogue (hbounded : backoff.Bounded) {again : Span → Program interface (Option (Except Failure Unit))}
    {property : Talk → Option (Except Failure Unit) → Prop}
    (hagain : ∀ next : Span, next.nanos ≤ backoff.longest.nanos → (again next).Says Request.isCall property)
    (hdelay : delay.nanos ≤ backoff.longest.nanos) (drawn : UInt64) :
    Program.Says Request.isCall
      (match backoff.wait? delay drawn with
        | none => .done none
        | some wait => .ask (I := interface) (.pause wait) fun _ =>
          match backoff.nextDelay? delay with
          | none => .done none
          | some delay => again delay)
      property := by
  have hcomputes := (hbounded.fits hdelay).computes drawn
  obtain ⟨wait, hwait, -⟩ := hcomputes.wait?_eq
  obtain ⟨next, hnext, hdoubled⟩ := hcomputes.nextDelay?_eq
  have hle : next.nanos ≤ backoff.longest.nanos := hdoubled.trans_le (backoff.doubled_le _)
  simp only [hwait, hnext]
  exact (Program.says_ask_unheard rfl).2 fun reply => hagain next hle

/-- something is called that comes to a result -/
def ComesTo (property : Talk → Except Failure Unit → Prop) (talk : Talk)
    (result : Option (Except Failure Unit)) : Prop :=
  ∃ value, result = some value ∧ property talk value

theorem ComesTo.stands {talk : Talk} {result : Except Failure Unit} (honce : once talk result)
    (hends : ∀ failure, result = .error failure → ¬ Passes failure) (most : Nat) :
    (Program.done (I := interface) (some result)).Says Request.isCall fun rest =>
      ComesTo (Repeats once Passes most) (talk ++ rest) := by
  rw [Program.Says, List.append_nil]
  exact ⟨result, rfl, Repeats.last honce hends⟩

theorem ComesTo.again {talk rest : Talk} {failure : Failure} {most : Nat} {result : Option (Except Failure Unit)}
    (h : ComesTo (Repeats once Passes most) rest result) (honce : once talk (.error failure))
    (hpasses : Passes failure) :
    ComesTo (Repeats once Passes (most + 1)) (talk ++ rest) result := by
  obtain ⟨value, rfl, hrepeats⟩ := h
  exact ⟨value, rfl, Repeats.again honce hpasses hrepeats⟩

/-- a transaction is called again while its failures pass, and comes to a result -/
theorem retryFrom_dialogue (hbounded : backoff.Bounded) (hcall : call.Says Request.isCall once) (most : Nat)
    (hdelay : delay.nanos ≤ backoff.longest.nanos) :
    (backoff.retryFrom isTransient (Program.query (I := interface) .draw)
      (fun span => Program.query (I := interface) (.pause span)) call most delay).Says Request.isCall
        (ComesTo (Repeats once Passes most)) := by
  induction most generalizing delay with
  | zero =>
    change (call.bind fun value => .done (some value)).Says _ _
    refine Program.says_bind.2 (hcall.mono fun talk value honce => ?_)
    rw [Program.Says, List.append_nil]
    exact ⟨value, rfl, Repeats.only honce⟩
  | succ most ih =>
    change (call.bind _).Says _ _
    refine Program.says_bind.2 (hcall.mono fun talk result honce => ?_)
    cases result with
    | ok value =>
      refine ComesTo.stands honce ?_ (most + 1)
      rintro failure ⟨⟩
    | error failure =>
      cases htransient : isTransient failure with
      | false =>
        simp only [htransient, Bool.not_false, ite_true]
        refine ComesTo.stands honce ?_ (most + 1)
        rintro other ⟨⟩ hpasses
        rw [isTransient_iff.2 hpasses] at htransient
        cases htransient
      | true =>
        have hagain := fun (next : Span) (hnext : next.nanos ≤ backoff.longest.nanos) =>
          (ih hnext).mono fun rest result hrest => hrest.again honce (isTransient_iff.1 htransient)
        simp only [htransient, Bool.not_true, Bool.false_eq_true, ite_false]
        by_cases hjitter : backoff.jitterMillis = 0
        · simp only [hjitter, ite_true]
          exact wait_dialogue hbounded hagain hdelay 0
        · simp only [hjitter, ite_false]
          exact (Program.says_ask_unheard rfl).2 fun drawn => wait_dialogue hbounded hagain hdelay drawn

end Again

/-- no wait of the policy for transactions is too long to be represented: it makes no difference what would become of
one -/
theorem transact_eq (body : Task Unit) (other : Except Failure Unit) :
    transact body = (Backoff.transaction.retry isTransient (Program.query (I := interface) .draw)
      (fun span => Program.query (I := interface) (.pause span)) (transactOnce body)).bind fun result =>
        .done (result.getD other) := by
  have hresult := retryFrom_dialogue Backoff.transaction_bounded (transactOnce body).says_true 2
    Backoff.transaction_bounded.base
  refine Program.Says.bind_congr (hresult.mono ?_)
  rintro talk result ⟨value, rfl, -⟩
  rfl

theorem transact_dialogue (hbody : body.run.Says Request.isCall (Performs parts)) :
    (transact body).Says Request.isCall (Disciplined parts) := by
  have hagain := retryFrom_dialogue Backoff.transaction_bounded (transactOnce_dialogue hbody) 2
    Backoff.transaction_bounded.base
  change ((Backoff.transaction.retryFrom _ _ _ (transactOnce body) 2 _).bind _).Says _ _
  refine Program.says_bind.2 (hagain.mono ?_)
  rintro talk result? ⟨result, rfl, hdisciplined⟩
  change Disciplined parts (talk ++ []) result
  rwa [List.append_nil]

theorem tracked_dialogue {operation table : String} {work : Program interface (Except Failure Unit)}
    {property : Talk → Except Failure Unit → Prop} (hwork : work.Says Request.isCall property) :
    (tracked operation table work).Says Request.isCall property := by
  change (work.bind _).Says _ _
  refine Program.says_bind.2 (hwork.mono fun talk result hresult => ?_)
  refine (Program.says_ask_unheard rfl).2 fun reply => ?_
  change property (talk ++ []) result
  rwa [List.append_nil]

/-! ## Queries that write -/

/-- what is asked of the database for a query, with the replies -/
def talkOf {σ : Type} (handler : Handler interface σ) (query : Query) (state : σ) : Talk :=
  (answer query).dialogue Request.isCall handler state

def resultOf {σ : Type} (handler : Handler interface σ) (query : Query) (state : σ) : Except Failure query.Answer :=
  ((answer query).run handler state).1

/-- **Queries that write run their transactions again in turn, and only as long as that can help.** Let the replies to
what is asked of the database be any replies, each of them given in view of what was asked before.

- A new attempt is created in one to three runs of a transaction that puts the attempt and then its first step into
  the tables.
- A change that takes a step away or adds one is carried out in one to three runs of a transaction that reads the last
  step, takes the one step away, and adds the other one.
- Each run starts a session and a transaction, performs the parts of its body in this order up to the first one that
  fails, and ends in one abort, or else in one to four commits. A commit is sent again if and only if its error leaves
  open whether it was applied and fewer than four were sent.
- There is another run if and only if the last one failed with an error of the database that is transient, and fewer
  than three were made. What the last run came to is told.
- A change that takes no step away and adds none asks nothing of the database. -/
theorem retries_disciplined {σ : Type} (handler : Handler interface σ) (state : σ) :
    (∀ attempt first,
      Disciplined (createParts attempt first) (talkOf handler (.create attempt first) state)
        (resultOf handler (.create attempt first) state)) ∧
    ∀ id expected change,
      (change.isEmpty = false →
        Disciplined (changeParts id expected change) (talkOf handler (.commit id expected change) state)
          (resultOf handler (.commit id expected change) state)) ∧
      (change.isEmpty = true → talkOf handler (.commit id expected change) state = []) := by
  refine ⟨fun attempt first => ?_, fun id expected change => ⟨fun hchange => ?_, fun hchange => ?_⟩⟩
  · exact (tracked_dialogue (transact_dialogue (createBody_dialogue attempt first))).dialogue handler state
  · have hsays : (answer (.commit id expected change)).Says Request.isCall
        (Disciplined (changeParts id expected change)) := by
      rw [answer, if_neg (by simp [hchange])]
      exact tracked_dialogue (transact_dialogue (changeBody_dialogue id expected change))
    exact hsays.dialogue handler state
  · rw [talkOf, answer, if_pos hchange]
    rfl

/-- replies of a database in which an attempt has this last step; the first commit fails in a way that passes, and of
the second one it is not known whether it was applied -/
def troubled (last : Step) : Handler interface Nat
  | .startSession, sent => (.ok (), sent)
  | .startTransaction, sent => (.ok (), sent)
  | .send _ (.createIndex _ _), sent => (.ok (), sent)
  | .send _ .ping, sent => (.ok (), sent)
  | .send _ (.find _ _ _ _), sent => (.ok [last.toJson], sent)
  | .send _ (.insert _ _), sent => (.ok (), sent)
  | .send _ (.delete _ _), sent => (.ok (1 : Nat), sent)
  | .send _ .commit, 0 => (.error ⟨[transientLabel]⟩, 1)
  | .send _ .commit, 1 => (.error ⟨[unknownLabel]⟩, 2)
  | .send _ .commit, sent => (.ok (), sent)
  | .send _ .abort, sent => (.ok (), sent)
  | .pause _, sent => ((), sent)
  | .draw, sent => ((0 : UInt64), sent)
  | .tally _, sent => ((), sent)

/-- a draft at the end of an attempt -/
def lateDraft : Step :=
  { (History.start "attempt" ⟨"draft", .year2024⟩).current with number := 1, isDraft := true }

/-- a change that puts a real step in place of the draft -/
def succession : Change := ⟨.appended, some "draft", some { lateDraft with id := "real", isDraft := false }⟩

/-- a transaction is run twice, and in the second run its commit is sent twice -/
theorem retries_disciplined_troubled :
    succession.isEmpty = false ∧
      Disciplined (changeParts "attempt" "draft" succession)
        (talkOf (troubled lateDraft) (.commit "attempt" "draft" succession) 0) (.ok ()) ∧
      (talkOf (troubled lateDraft) (.commit "attempt" "draft" succession) 0).length = 13 :=
  ⟨rfl, ((retries_disciplined (troubled lateDraft) 0).2 "attempt" "draft" succession).1 rfl, rfl⟩

theorem Tries.ne_nil {parts : List Part} {talk : Talk} {result : Except Failure Unit} (h : Tries parts talk result) :
    talk ≠ [] := by
  cases h with
  | sessionFails fault => exact List.cons_ne_nil _ _
  | transactionFails fault => exact List.cons_ne_nil _ _
  | aborts hbody reply => exact List.cons_ne_nil _ _
  | commits hbody hcommits => exact List.cons_ne_nil _ _

/-- a change that takes no step away and adds none is carried out without a transaction -/
theorem retries_disciplined_empty :
    ¬ ∀ (σ : Type) (handler : Handler interface σ) (state : σ),
      (∀ attempt first,
        Disciplined (createParts attempt first) (talkOf handler (.create attempt first) state)
          (resultOf handler (.create attempt first) state)) ∧
      ∀ id expected change,
        Disciplined (changeParts id expected change) (talkOf handler (.commit id expected change) state)
          (resultOf handler (.commit id expected change) state) := by
  intro hlaw
  obtain ⟨failed, last, htalk, -, -, hlast, -⟩ :=
    (hlaw Nat (troubled lateDraft) 0).2 "attempt" "draft" ⟨.unchanged, none, none⟩
  have hnothing : talkOf (troubled lateDraft) (.commit "attempt" "draft" ⟨.unchanged, none, none⟩) 0 = [] := rfl
  rw [hnothing] at htalk
  exact hlast.ne_nil (List.append_eq_nil_iff.1 htalk.symm).2

end Database

end AttemptLog
