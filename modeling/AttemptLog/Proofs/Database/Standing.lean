import AttemptLog.Proofs.Database.Cluster
/-!
How a client's transaction can stand.

`Cluster.Quiet` says that nothing of the client's was applied or will be, `Cluster.Held` that the transaction of the
session has not been committed, and `Cluster.Sent` that its commit was sent; in the last two cases a commit can be
sent (`Cluster.Ready`). All this stays while the client does not look (`quiet_stays`, `held_stays`, `sent_stays`,
`ready_stays`), so a question can be taken as if nothing happened before it (`ensures_question`, `ensures_send`).
-/
namespace AttemptLog.Database

namespace Cluster

/-- nothing of the client's was applied or will be -/
structure Quiet (cluster : Cluster) : Prop where
  unsent : cluster.phase.isSent = false
  doubtful : cluster.doubtful = []
  ledger : cluster.ledger = []

/-- the transaction of the session has begun, or was dropped -/
structure Held (cluster : Cluster) (transaction : Transaction) : Prop where
  phase : cluster.phase = .active transaction ∨ cluster.phase = .dropped
  doubtful : cluster.doubtful = []
  ledger : cluster.ledger = []

/-- the transaction of the session was applied, and no other -/
structure Applied (cluster : Cluster) (transaction : Transaction) : Prop where
  phase : cluster.phase = .applied transaction
  doubtful : cluster.doubtful = []
  ledger : cluster.ledger = [transaction]

/-- a commit was sent, of a transaction with some property, and nothing else was applied or will be -/
inductive Sent (property : Transaction → Prop) (cluster : Cluster) : Prop where
  | doubtful {transaction : Transaction} (hproperty : property transaction)
    (hphase : cluster.phase = .doubtful transaction) (hdoubtful : cluster.doubtful = [])
    (hledger : cluster.ledger = [])
  | applied {transaction : Transaction} (hproperty : property transaction) (happlied : cluster.Applied transaction)

/-- a commit can be sent, of a transaction with some property -/
inductive Ready (property : Transaction → Prop) (cluster : Cluster) : Prop where
  | held {transaction : Transaction} (hproperty : property transaction) (hheld : cluster.Held transaction)
  | sent (hsent : cluster.Sent property)

theorem Held.quiet {cluster : Cluster} {transaction : Transaction} (h : cluster.Held transaction) : cluster.Quiet := by
  refine ⟨?_, h.doubtful, h.ledger⟩
  rcases h.phase with hphase | hphase
  · rw [hphase]
    rfl
  · rw [hphase]
    rfl

section Ready

variable {property : Transaction → Prop} {cluster : Cluster}

/-- a transaction that can be committed has begun or was dropped, or may be applied, or was applied -/
theorem Ready.cases (h : cluster.Ready property) :
    cluster.doubtful = [] ∧ ∃ transaction, property transaction ∧
      (((cluster.phase = .active transaction ∨ cluster.phase = .doubtful transaction ∨ cluster.phase = .dropped) ∧
          cluster.ledger = []) ∨
        cluster.phase = .applied transaction ∧ cluster.ledger = [transaction]) := by
  cases h with
  | @held transaction hproperty hheld =>
    exact ⟨hheld.doubtful, transaction, hproperty, .inl ⟨hheld.phase.imp_right .inr, hheld.ledger⟩⟩
  | sent hsent =>
    cases hsent with
    | @doubtful transaction hproperty hphase hdoubtful hledger =>
      exact ⟨hdoubtful, transaction, hproperty, .inl ⟨.inr (.inl hphase), hledger⟩⟩
    | @applied transaction hproperty happlied =>
      exact ⟨happlied.doubtful, transaction, hproperty, .inr ⟨happlied.phase, happlied.ledger⟩⟩

theorem Ready.of_never (h : cluster.Ready property) (hnever : ∀ transaction, cluster.phase ≠ .applied transaction) :
    ∃ transaction, property transaction ∧ cluster.doubtful = [] ∧ cluster.ledger = [] := by
  obtain ⟨hdoubtful, transaction, hproperty, ⟨-, hledger⟩ | ⟨happlied, -⟩⟩ := h.cases
  · exact ⟨transaction, hproperty, hdoubtful, hledger⟩
  · exact absurd happlied (hnever transaction)

theorem Ready.of_pending (h : cluster.Ready property) {transaction : Transaction}
    (hphase : cluster.phase = .active transaction ∨ cluster.phase = .doubtful transaction) :
    property transaction ∧ cluster.doubtful = [] ∧ cluster.ledger = [] := by
  obtain ⟨hdoubtful, other, hproperty, ⟨hother, hledger⟩ | ⟨happlied, -⟩⟩ := h.cases
  · obtain rfl : transaction = other := by
      rcases hphase with hphase | hphase <;>
      · rw [hphase] at hother
        simpa using hother
    exact ⟨hproperty, hdoubtful, hledger⟩
  · rw [happlied] at hphase
    simp at hphase

theorem Ready.of_applied (h : cluster.Ready property) {transaction : Transaction}
    (hphase : cluster.phase = .applied transaction) : property transaction ∧ cluster.Applied transaction := by
  obtain ⟨hdoubtful, other, hproperty, ⟨hother, -⟩ | ⟨happlied, hledger⟩⟩ := h.cases
  · rw [hphase] at hother
    simp at hother
  · rw [hphase] at happlied
    cases happlied
    exact ⟨hproperty, hphase, hdoubtful, hledger⟩

end Ready

/-! ## What stays while the client does not look -/

/-- does a property of clusters stay whatever happens -/
def Stays (property : Cluster → Prop) : Prop := ∀ cluster next, property cluster → Happens cluster next → property next

theorem Stays.later {property : Cluster → Prop} (hstays : Stays property) {cluster later : Cluster}
    (hlater : Relation.ReflTransGen Happens cluster later) (h : property cluster) : property later := by
  induction hlater with
  | refl => exact h
  | tail _ hlast ih => exact hstays _ _ ih hlast

theorem quiet_stays : Stays Quiet := by
  intro cluster next h hhappens
  cases hhappens with
  | others tables => exact ⟨h.unsent, h.doubtful, h.ledger⟩
  | expires hphase => exact ⟨rfl, h.doubtful, h.ledger⟩
  | settles hphase =>
    have hunsent := h.unsent
    rw [hphase] at hunsent
    cases hunsent
  | settlesLate hdoubtful =>
    rw [h.doubtful] at hdoubtful
    simp at hdoubtful

theorem idle_stays : Stays fun cluster => cluster.Quiet ∧ cluster.phase = .idle := by
  rintro cluster next ⟨hquiet, hidle⟩ hhappens
  refine ⟨quiet_stays cluster next hquiet hhappens, ?_⟩
  cases hhappens with
  | others tables => exact hidle
  | expires hphase =>
    rw [hidle] at hphase
    cases hphase
  | settles hphase =>
    rw [hidle] at hphase
    cases hphase
  | settlesLate hdoubtful => exact hidle

theorem held_stays (transaction : Transaction) : Stays fun cluster => cluster.Held transaction := by
  intro cluster next h hhappens
  have hquiet := quiet_stays cluster next h.quiet hhappens
  refine ⟨?_, hquiet.doubtful, hquiet.ledger⟩
  cases hhappens with
  | others tables => exact h.phase
  | expires hphase => exact .inr rfl
  | settlesLate hdoubtful => exact h.phase
  | settles hphase =>
    have hunsent := h.quiet.unsent
    rw [hphase] at hunsent
    cases hunsent

theorem applied_stays (transaction : Transaction) : Stays fun cluster => cluster.Applied transaction := by
  intro cluster next h hhappens
  cases hhappens with
  | others tables => exact ⟨h.phase, h.doubtful, h.ledger⟩
  | expires hphase =>
    rw [h.phase] at hphase
    cases hphase
  | settles hphase =>
    rw [h.phase] at hphase
    cases hphase
  | settlesLate hdoubtful =>
    rw [h.doubtful] at hdoubtful
    simp at hdoubtful

theorem sent_stays (property : Transaction → Prop) : Stays fun cluster => cluster.Sent property := by
  intro cluster next h hhappens
  cases h with
  | applied hproperty happlied => exact .applied hproperty (applied_stays _ cluster next happlied hhappens)
  | @doubtful transaction hproperty hphase hdoubtful hledger =>
    cases hhappens with
    | others tables => exact .doubtful hproperty hphase hdoubtful hledger
    | expires hactive =>
      rw [hphase] at hactive
      cases hactive
    | settles hsame =>
      rw [hphase] at hsame
      cases hsame
      exact .applied hproperty ⟨rfl, hdoubtful, by simp [apply, hledger]⟩
    | settlesLate hlate =>
      rw [hdoubtful] at hlate
      simp at hlate

theorem ready_stays (property : Transaction → Prop) : Stays fun cluster => cluster.Ready property := by
  intro cluster next h hhappens
  cases h with
  | held hproperty hheld => exact .held hproperty (held_stays _ cluster next hheld hhappens)
  | sent hsent => exact .sent (sent_stays property cluster next hsent hhappens)

end Cluster

/-! ## Questions -/

section Questions

variable {α β : Type} {cluster : Cluster}

theorem ensures_question {property : Cluster → Prop} (hstays : Cluster.Stays property) (hbefore : property cluster)
    {request : Request} {next : request.Reply → Program interface α} {after : α → Cluster → Prop}
    (h : ∀ between reply later, property between → Exchange request between reply later →
      (next reply).Ensures Cluster.Answers later after) :
    (Program.ask (I := interface) request next).Ensures Cluster.Answers cluster after := by
  rw [Program.ensures_ask]
  rintro reply later ⟨between, hbetween, hexchange⟩
  exact h between reply later (hstays.later hbetween hbefore) hexchange

theorem ensures_task_bind {first : Task α} {go : α → Task β} {after : Except Failure β → Cluster → Prop} :
    (first >>= go).run.Ensures Cluster.Answers cluster after ↔
      first.run.Ensures Cluster.Answers cluster fun result later =>
        match result with
        | .ok value => (go value).run.Ensures Cluster.Answers later after
        | .error failure => after (.error failure) later := by
  have hbind : (first >>= go).run = first.run.bind (ExceptT.bindCont go) := rfl
  rw [hbind, Program.ensures_bind]
  constructor
  · intro h value later hrun
    have hlater := h value later hrun
    cases value with
    | ok value => exact hlater
    | error failure => exact hlater _ _ (.done _ _)
  · intro h value later hrun
    have hlater := h value later hrun
    cases value with
    | ok value => exact hlater
    | error failure => exact Program.ensures_done.2 hlater

theorem ensures_send {property : Cluster → Prop} (hstays : Cluster.Stays property) (hbefore : property cluster)
    {stage : Stage} {place : Place} {command : Command} {after : Except Failure command.Reply → Cluster → Prop}
    (hok : ∀ between reply later, property between → Exchange (.send place command) between (.ok reply) later →
      after (.ok reply) later)
    (herror : ∀ between fault later, property between → Exchange (.send place command) between (.error fault) later →
      after (.error (failureAt stage fault.labels)) later) :
    (send stage place command).run.Ensures Cluster.Answers cluster after := by
  refine ensures_question hstays hbefore fun between reply later hbetween hexchange => ?_
  cases reply with
  | ok reply => exact Program.ensures_done.2 (hok between reply later hbetween hexchange)
  | error fault => exact Program.ensures_done.2 (herror between fault later hbetween hexchange)

end Questions

end AttemptLog.Database
