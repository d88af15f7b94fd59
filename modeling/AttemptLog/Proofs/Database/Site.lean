import AttemptLog.Proofs.Database.Clash
import AttemptLog.Proofs.Database.Client
/-!
Many calls on one database with snapshot isolation.

A site is a database with the calls that work on it, and a ledger of the transactions that were applied. Of the
database only this much is known, besides what is known of clusters. The tables are what the transactions of the
ledger make of empty ones (`tablesAfter`), and whatever a client is shown are the tables of some moment. A transaction
is applied only if it clashes with none of those that were applied since the moment whose tables it saw (`Admits`):
two transactions that overlap and delete the same document, or insert documents that may not stand in one table, are
not both applied.

`Site.Sound` says what holds of each transaction of the ledger when it was applied, and `sound_of_reached` that it
does.
-/
namespace AttemptLog.Database

/-- a call at work on a database -/
structure Client where
  ticket : Ticket
  rest : Program interface (Report Answer)
  watch : Watch

/-- a transaction that was applied, whose it was, and the tables that the client had been shown by then -/
structure Entry where
  place : Nat
  ticket : Ticket
  seen : List Tables
  transaction : Transaction

/-- the calls at work on one database, and the transactions that were applied, in order -/
structure Site where
  clients : List Client
  ledger : List Entry

def tablesAfter (ledger : List Entry) : Tables :=
  ledger.foldl (fun tables entry => entry.transaction.applyTo tables) Keyed.empty

theorem tablesAfter_concat (ledger : List Entry) (entry : Entry) :
    tablesAfter (ledger ++ [entry]) = entry.transaction.applyTo (tablesAfter ledger) := by
  simp [tablesAfter]

/-! ## What can happen -/

/-- can a transaction be applied: it saw the tables of some moment, and clashes with none that was applied since -/
def Admits (ledger : List Entry) (transaction : Transaction) : Prop :=
  ∃ earlier since, ledger = earlier ++ since ∧ transaction.snapshot = tablesAfter earlier ∧
    ∀ entry ∈ since, ¬ entry.transaction.Clashes transaction

/-- what a client watches when the tables are these -/
def Watch.on (watch : Watch) (tables : Tables) : Watch := ⟨{ watch.cluster with tables := tables }, watch.seen⟩

/-- one turn of a client when the tables are these -/
inductive Client.Turn (tables : Tables) (client : Client) : Client → Prop where
  /-- its next question is answered -/
  | asks {request : Request} {next : request.Reply → Program interface (Report Answer)} {reply : request.Reply}
    {later : Watch} (hrest : client.rest = .ask request next)
    (hexchanges : (client.watch.on tables).Exchanges request reply later) :
    Turn tables client ⟨client.ticket, next reply, later⟩
  /-- something happens while it does not look -/
  | waits {later : Cluster} (hhappens : Happens (client.watch.on tables).cluster later) :
    Turn tables client ⟨client.ticket, client.rest, ⟨later, client.watch.seen⟩⟩

namespace Site

def start : Site := ⟨[], []⟩

/-- what can happen at a site -/
inductive Step : Site → Site → Prop where
  /-- a call comes in -/
  | enter {site : Site} (ticket : Ticket) :
    Step site ⟨site.clients ++ [⟨ticket, ticket.program.via answer, ⟨Cluster.start Keyed.empty, []⟩⟩], site.ledger⟩
  /-- a client has its turn, with the tables of some moment, and what is applied is admitted -/
  | turn {site : Site} {place : Nat} {client next : Client} {front : List Entry} {applied : Option Transaction}
    (hclient : site.clients[place]? = some client) (hfront : front <+: site.ledger)
    (hturn : client.Turn (tablesAfter front) next)
    (hledger : next.watch.cluster.ledger = client.watch.cluster.ledger ++ applied.toList)
    (hadmits : ∀ transaction, applied = some transaction → Admits site.ledger transaction) :
    Step site ⟨site.clients.set place next,
      site.ledger ++ applied.toList.map (Entry.mk place client.ticket next.watch.seen)⟩

/-- can a site come about by calls alone -/
def Reached (site : Site) : Prop := Relation.ReflTransGen Step start site

end Site

/-! ## What holds of the ledger -/

/-- what holds of a transaction when it is applied after others -/
structure Entry.Due (earlier : List Entry) (entry : Entry) : Prop where
  admitted : Admits earlier entry.transaction
  shown : ∀ tables ∈ entry.seen, ∃ front, front <+: earlier ∧ tables = tablesAfter front
  decided : ∃ id before after, Decided entry.ticket entry.seen entry.transaction id before after

namespace Site

/-- what holds of a site whatever the calls do -/
structure Sound (site : Site) : Prop where
  accounts : ∀ (place : Nat) client, site.clients[place]? = some client →
    client.rest.Ensures Watch.Answers client.watch fun _ next => next.Accounts client.ticket
  shown : ∀ (place : Nat) client, site.clients[place]? = some client → ∀ tables ∈ client.watch.seen,
    ∃ front, front <+: site.ledger ∧ tables = tablesAfter front
  applied : ∀ (place : Nat) client, site.clients[place]? = some client →
    (site.ledger.filter fun entry => entry.place == place).map Entry.transaction = client.watch.cluster.ledger
  placed : ∀ entry ∈ site.ledger, ∃ client, site.clients[entry.place]? = some client ∧ client.ticket = entry.ticket
  due : ∀ earlier entry, earlier ++ [entry] <+: site.ledger → entry.Due earlier

end Site

section Turns

variable {tables : Tables} {client next : Client}

theorem Client.Turn.ticket (h : client.Turn tables next) : next.ticket = client.ticket := by
  cases h <;> rfl

theorem Client.Turn.seen (h : client.Turn tables next) :
    ∀ shown ∈ next.watch.seen, shown ∈ client.watch.seen ∨ shown = tables := by
  cases h with
  | waits hhappens => exact fun shown hshown => .inl hshown
  | @asks request go reply later hrest hexchanges =>
    intro shown hshown
    rw [hexchanges.seen, List.mem_append] at hshown
    refine hshown.imp_right fun hshown => ?_
    unfold Tables.shownBy at hshown
    split at hshown
    · exact List.mem_singleton.1 hshown
    · cases hshown

theorem Client.Turn.accounts (h : client.Turn tables next)
    (haccounts : client.rest.Ensures Watch.Answers client.watch fun _ next => next.Accounts client.ticket) :
    next.rest.Ensures Watch.Answers next.watch fun _ later => later.Accounts next.ticket := by
  have hothers : Relation.ReflTransGen Happens client.watch.cluster (client.watch.on tables).cluster :=
    .single (.others tables)
  cases h with
  | waits hhappens => exact ensures_later haccounts (hothers.tail hhappens)
  | asks hrest hexchanges =>
    rw [hrest, Program.ensures_ask] at haccounts
    exact haccounts _ _ ⟨_, hothers, hexchanges⟩

end Turns

namespace Site

variable {site : Site}

theorem start_sound : Sound start where
  accounts place client hclient := by simp [start] at hclient
  shown place client hclient := by simp [start] at hclient
  applied place client hclient := by simp [start] at hclient
  placed entry hentry := by simp [start] at hentry
  due earlier entry hfront := by simp [start] at hfront

theorem entered_cases {clients : List Client} {place : Nat} {client entering : Client}
    (h : (clients ++ [entering])[place]? = some client) :
    clients[place]? = some client ∨ place = clients.length ∧ client = entering := by
  rw [List.getElem?_append] at h
  split at h
  · exact .inl h
  · rw [List.getElem?_singleton] at h
    split at h
    · cases h
      exact .inr ⟨by omega, rfl⟩
    · cases h

theorem turned_cases {clients : List Client} {place other : Nat} {client next : Client}
    (h : (clients.set place next)[other]? = some client) :
    (other = place ∧ client = next) ∨ (other ≠ place ∧ clients[other]? = some client) := by
  by_cases hother : other = place
  · subst hother
    have hplace : other < clients.length := by
      obtain ⟨hlength, -⟩ := List.getElem?_eq_some_iff.1 h
      rwa [List.length_set] at hlength
    rw [List.getElem?_set_self hplace] at h
    exact .inl ⟨rfl, (Option.some.inj h).symm⟩
  · rw [List.getElem?_set_ne (Ne.symm hother)] at h
    exact .inr ⟨hother, h⟩

theorem exists_turned {clients : List Client} {place other : Nat} {client next owner : Client}
    (hclient : clients[place]? = some client) (hticket : next.ticket = client.ticket)
    (howner : clients[other]? = some owner) :
    ∃ later, (clients.set place next)[other]? = some later ∧ later.ticket = owner.ticket := by
  by_cases hother : other = place
  · subst hother
    cases hclient.symm.trans howner
    exact ⟨next, List.getElem?_set_self (List.getElem?_eq_some_iff.1 hclient).1, hticket⟩
  · exact ⟨owner, (List.getElem?_set_ne (Ne.symm hother)).trans howner, rfl⟩

theorem Sound.filter_eq_nil (h : site.Sound) {place : Nat} (hnone : site.clients[place]? = none) :
    (site.ledger.filter fun entry => entry.place == place) = [] := by
  refine List.filter_eq_nil_iff.2 fun entry hentry hplace => ?_
  obtain ⟨owner, howner, -⟩ := h.placed entry hentry
  rw [beq_iff_eq.1 hplace, hnone] at howner
  cases howner

theorem Sound.enter (h : site.Sound) (ticket : Ticket) :
    Sound ⟨site.clients ++ [⟨ticket, ticket.program.via answer, ⟨Cluster.start Keyed.empty, []⟩⟩], site.ledger⟩ where
  accounts place client hclient := by
    rcases entered_cases hclient with hold | ⟨-, rfl⟩
    · exact h.accounts place client hold
    · exact program_ensures ticket (quiet_start _)
  shown place client hclient := by
    rcases entered_cases hclient with hold | ⟨-, rfl⟩
    · exact h.shown place client hold
    · exact fun tables htables => nomatch htables
  applied place client hclient := by
    rcases entered_cases hclient with hold | ⟨rfl, rfl⟩
    · exact h.applied place client hold
    · rw [h.filter_eq_nil (List.getElem?_eq_none (Nat.le_refl _))]
      rfl
  placed entry hentry := by
    obtain ⟨owner, howner, hticket⟩ := h.placed entry hentry
    obtain ⟨hplace, -⟩ := List.getElem?_eq_some_iff.1 howner
    exact ⟨owner, (List.getElem?_append_left hplace).trans howner, hticket⟩
  due := h.due

/-- a client was shown the tables of some moments, after a turn too -/
theorem Sound.shown_after (h : site.Sound) {place : Nat} {client next : Client} {front : List Entry}
    (hclient : site.clients[place]? = some client) (hfront : front <+: site.ledger)
    (hturn : client.Turn (tablesAfter front) next) {tables : Tables} (htables : tables ∈ next.watch.seen) :
    ∃ front, front <+: site.ledger ∧ tables = tablesAfter front := by
  rcases hturn.seen tables htables with hold | rfl
  · exact h.shown place client hclient tables hold
  · exact ⟨front, hfront, rfl⟩

theorem Sound.due_applied (h : site.Sound) {place : Nat} {client next : Client} {front : List Entry}
    (hclient : site.clients[place]? = some client) (hfront : front <+: site.ledger)
    (hturn : client.Turn (tablesAfter front) next) {transaction : Transaction}
    (happlied : transaction ∈ next.watch.cluster.ledger) (hadmits : Admits site.ledger transaction) :
    Entry.Due site.ledger ⟨place, client.ticket, next.watch.seen, transaction⟩ := by
  have hdecided := (decides_of_ensures (hturn.accounts (h.accounts place client hclient))).2 transaction happlied
  rw [hturn.ticket] at hdecided
  exact ⟨hadmits, fun tables htables => h.shown_after hclient hfront hturn htables, hdecided⟩

theorem Sound.turn (h : site.Sound) {place : Nat} {client next : Client} {front : List Entry}
    {applied : Option Transaction} (hclient : site.clients[place]? = some client) (hfront : front <+: site.ledger)
    (hturn : client.Turn (tablesAfter front) next)
    (hledger : next.watch.cluster.ledger = client.watch.cluster.ledger ++ applied.toList)
    (hadmits : ∀ transaction, applied = some transaction → Admits site.ledger transaction) :
    Sound ⟨site.clients.set place next,
      site.ledger ++ applied.toList.map (Entry.mk place client.ticket next.watch.seen)⟩ := by
  constructor
  case accounts =>
    intro other owner howner
    rcases turned_cases howner with ⟨-, rfl⟩ | ⟨-, hold⟩
    · exact hturn.accounts (h.accounts place client hclient)
    · exact h.accounts other owner hold
  case shown =>
    intro other owner howner tables htables
    obtain ⟨front, hfront, htables⟩ : ∃ front, front <+: site.ledger ∧ tables = tablesAfter front := by
      rcases turned_cases howner with ⟨-, rfl⟩ | ⟨-, hold⟩
      · exact h.shown_after hclient hfront hturn htables
      · exact h.shown other owner hold tables htables
    exact ⟨front, hfront.trans (List.prefix_append _ _), htables⟩
  case applied =>
    intro other owner howner
    rcases turned_cases howner with ⟨rfl, rfl⟩ | ⟨hother, hold⟩
    · rw [List.filter_append, List.map_append, h.applied other client hclient, hledger]
      congr 1
      cases applied <;> simp
    · rw [List.filter_append, List.map_append, h.applied other owner hold]
      cases applied <;> simp [Ne.symm hother]
  case placed =>
    intro entry hentry
    rcases List.mem_append.1 hentry with hold | hentry
    · obtain ⟨owner, howner, hticket⟩ := h.placed entry hold
      obtain ⟨later, hlater, hkept⟩ := exists_turned hclient hturn.ticket howner
      exact ⟨later, hlater, hkept.trans hticket⟩
    · obtain ⟨transaction, -, rfl⟩ := List.mem_map.1 hentry
      exact exists_turned hclient hturn.ticket hclient
  case due =>
    intro earlier entry hearlier
    cases applied with
    | none => exact h.due earlier entry (by simpa using hearlier)
    | some transaction =>
      rcases List.prefix_concat_iff.1 hearlier with hsame | hold
      · obtain ⟨rfl, hentry⟩ := List.append_inj' hsame rfl
        obtain rfl := List.singleton_inj.1 hentry
        exact h.due_applied hclient hfront hturn (by simp [hledger]) (hadmits transaction rfl)
      · exact h.due earlier entry hold

theorem Sound.step {next : Site} (h : site.Sound) (hstep : site.Step next) : next.Sound := by
  cases hstep with
  | enter ticket => exact h.enter ticket
  | turn hclient hfront hturn hledger hadmits => exact h.turn hclient hfront hturn hledger hadmits

/-- **Each transaction was due when it was applied**, whatever the calls do. -/
theorem sound_of_reached (h : site.Reached) : site.Sound := by
  induction h with
  | refl => exact start_sound
  | tail hreached hstep ih => exact ih.step hstep

/-! ## Identities -/

/-- no call has more than one transaction applied -/
theorem Sound.places_nodup (h : site.Sound) : (site.ledger.map Entry.place).Nodup := by
  rw [List.nodup_iff_count_le_one]
  intro place
  have hcount : (site.ledger.map Entry.place).count place =
      (site.ledger.filter fun entry => entry.place == place).length := by
    rw [List.count, List.countP_map, List.countP_eq_length_filter]
    rfl
  rw [hcount]
  cases hclient : site.clients[place]? with
  | some client =>
    have hone := (decides_of_ensures (h.accounts place client hclient)).1
    rwa [← h.applied place client hclient, List.length_map] at hone
  | none =>
    rw [h.filter_eq_nil hclient]
    exact Nat.zero_le _

/-- all identities are different that were issued to calls of which a transaction was applied -/
theorem Sound.ids_nodup (h : site.Sound) (hfresh : ((site.clients.map Client.ticket).flatMap Ticket.ids).Nodup) :
    ((site.ledger.map Entry.ticket).flatMap Ticket.ids).Nodup := by
  have hissued : ∀ entry ∈ site.ledger, (site.clients.map Client.ticket)[entry.place]? = some entry.ticket := by
    intro entry hentry
    obtain ⟨client, hclient, hticket⟩ := h.placed entry hentry
    rw [List.getElem?_map, hclient, Option.map_some, hticket]
  rw [List.nodup_flatMap]
  constructor
  · intro ticket hticket
    obtain ⟨entry, hentry, rfl⟩ := List.mem_map.1 hticket
    exact (List.nodup_flatMap.1 hfresh).1 _ (List.mem_of_getElem? (hissued entry hentry))
  · rw [List.pairwise_map]
    have hplaces : site.ledger.Pairwise fun a b => a.place ≠ b.place := List.pairwise_map.1 h.places_nodup
    exact hplaces.imp_of_mem fun ha hb hne => Ticket.ids_disjoint hfresh (hissued _ ha) (hissued _ hb) hne

end Site

end AttemptLog.Database
