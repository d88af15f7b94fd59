import AttemptLog.Proofs.Database.Undisturbed
import AttemptLog.Proofs.Service.InTurn
import AttemptLog.Proofs.Service.LastStep
/-!
What is written to a database with snapshot isolation is written to the steps that it was decided on.

The tables of a site are compared with a store in memory to which the calls came one after another, in the order in
which their transactions were applied (`storeAfter`). `Faithful` says that the tables hold the steps of that store. A
transaction saw the steps that its call had decided on, since it saw their last step and the last step tells the steps
(`steps_of_snapshot`). They are still there when it is applied, since whatever changed them would clash with it
(`kept_since`). So it does to the tables what the call does to the store, and the tables keep step (`Regular.inStep`).
-/
namespace AttemptLog

theorem Store.stepsOf_insert (store : Store) (attempts : Keyed Attempt) (id : String) (steps : List Step) :
    (Store.mk attempts (store.steps.insert id steps)).stepsOf = Function.update store.stepsOf id steps := by
  funext other
  by_cases hother : other = id
  · simp [stepsOf, Keyed.get?_insert, hother]
  · simp [stepsOf, Keyed.get?_insert, hother]

theorem Store.get?_of_stepsOf {store : Store} {id : String} {steps : List Step} (h : store.stepsOf id = steps)
    (hne : steps ≠ []) : store.steps.get? id = some steps := by
  cases hget : store.steps.get? id with
  | some stored => rw [← h, Store.stepsOf_of_get? hget]
  | none => exact absurd (by simp [← h, stepsOf, hget]) hne

theorem Ticket.perform_start {ticket : Ticket} {store : Store} {questionId userId : String}
    (hcall : ticket.call = .start questionId userId) (hnew : store.attempts.get? ticket.issue.attemptId = none) :
    (ticket.perform store).2 =
      ⟨store.attempts.insert ticket.issue.attemptId (ticket.issue.newView questionId userId).attempt,
        store.steps.insert ticket.issue.attemptId (ticket.issue.newView questionId userId).history.steps⟩ := by
  simp only [perform, hcall, Keyed.contains_eq_false_iff.2 hnew]
  rfl

theorem Ticket.perform_accepted {ticket : Ticket} {store : Store} {id : String} {submission : Submission}
    {expected : Option String} {view : View} {decision : Decision}
    (hcall : ticket.call = .submit id submission expected) (hview : store.view id = .ok view)
    (hdecide : view.decide submission expected ticket.issue.stamp = .ok decision) :
    (ticket.perform store).2 = store.keep id decision.history := by
  simp only [perform, hcall, Store.decide, hview, hdecide]

namespace Database

/-- do the numbers of steps tell all real steps of each attempt apart -/
def Tables.HasRoom (tables : Tables) : Prop :=
  ∀ id steps, tables.steps? id = some steps → (realSteps steps).length < 2 ^ 32

/-- there is room as long as there are few steps altogether -/
theorem hasRoom_of_documents {tables : Tables} {all : List Step}
    (hall : tables.documents stepTable = all.map Step.toJson) (hsmall : all.length < 2 ^ 32) : tables.HasRoom := by
  intro id steps hsteps
  obtain ⟨read, hread, hperm⟩ := (Tables.holds_of_documents hall).steps?_perm id
  obtain rfl : read = steps := Option.some.inj (hread.symm.trans hsteps)
  calc (realSteps read).length ≤ read.length := List.length_filter_le _ _
    _ = (all.filter fun step => decide (step.attemptId = id)).length := hperm.length_eq
    _ ≤ all.length := List.length_filter_le _ _
    _ < 2 ^ 32 := hsmall

/-- what holds of a ledger: each transaction was due when it was applied, all identities are different, and there was
room all the time -/
structure Regular (ledger : List Entry) : Prop where
  due : ∀ earlier entry, earlier ++ [entry] <+: ledger → entry.Due earlier
  fresh : ((ledger.map Entry.ticket).flatMap Ticket.ids).Nodup
  room : ∀ front, front <+: ledger → (tablesAfter front).HasRoom

/-- what the calls of which these transactions were applied make of an empty store, one after another -/
def storeAfter (ledger : List Entry) : Store := (Traffic.after (Traffic.inTurn (ledger.map Entry.ticket))).state

/-- do the tables hold the steps of the store -/
structure Faithful (ledger : List Entry) : Prop where
  holds : (tablesAfter ledger).Holds (storeAfter ledger).stepsOf
  numbered : ∀ id, Numbered ((storeAfter ledger).stepsOf id)

/-- did a transaction do to the store what its call had decided on -/
def Entry.Follows (ledger : List Entry) (entry : Entry) : Prop :=
  ∃ id before after, Decided entry.ticket entry.seen entry.transaction id before after ∧
    (storeAfter ledger).stepsOf id = before ∧
    (storeAfter (ledger ++ [entry])).stepsOf = Function.update (storeAfter ledger).stepsOf id after

/-- do the tables keep step with the store -/
structure InStep (ledger : List Entry) : Prop extends Regular ledger where
  faithful : ∀ front, front <+: ledger → Faithful front
  follows : ∀ earlier entry, earlier ++ [entry] <+: ledger → entry.Follows earlier

section Ledgers

variable {ledger front : List Entry} {entry : Entry}

theorem Regular.of_prefix (h : Regular ledger) (hfront : front <+: ledger) : Regular front where
  due earlier entry hearlier := h.due earlier entry (hearlier.trans hfront)
  fresh := by
    obtain ⟨rest, rfl⟩ := hfront
    have hfresh := h.fresh
    rw [List.map_append, List.flatMap_append] at hfresh
    exact hfresh.of_append_left
  room earlier hearlier := h.room earlier (hearlier.trans hfront)

theorem InStep.of_prefix (h : InStep ledger) (hfront : front <+: ledger) : InStep front where
  toRegular := h.toRegular.of_prefix hfront
  faithful early hearly := h.faithful early (hearly.trans hfront)
  follows earlier entry hearlier := h.follows earlier entry (hearlier.trans hfront)

theorem Regular.sane (h : Regular ledger) : Traffic.Sane (Traffic.after (Traffic.inTurn (ledger.map Entry.ticket))) :=
  (Traffic.after_inv (Traffic.isFresh_inTurn.2 h.fresh)).toSane

theorem Regular.storeAfter_concat (h : Regular (ledger ++ [entry])) :
    storeAfter (ledger ++ [entry]) = (entry.ticket.perform (storeAfter ledger)).2 := by
  have hfresh := h.fresh
  rw [List.map_append, List.map_singleton] at hfresh
  rw [storeAfter, List.map_append, List.map_singleton]
  exact Traffic.state_inTurn_concat hfresh

/-- what was issued to the last call was not given away by the calls before it -/
theorem Regular.not_spent (h : Regular (ledger ++ [entry])) {id : String} (hid : id ∈ entry.ticket.ids) :
    ¬ Traffic.Spent (Traffic.after (Traffic.inTurn (ledger.map Entry.ticket))) id := by
  have hfresh := h.fresh
  rw [List.map_append, List.map_singleton] at hfresh
  exact Traffic.not_spent_inTurn hfresh hid

/-- no step of the store has an identity that was issued to the last call -/
theorem Regular.id_ne (h : Regular (ledger ++ [entry])) {id : String} (hid : id ∈ entry.ticket.ids) (other : String)
    {step : Step} (hstep : step ∈ (storeAfter ledger).stepsOf other) : step.id ≠ id := by
  rintro rfl
  have hget := Store.get?_of_stepsOf rfl (List.ne_nil_of_mem hstep)
  exact h.not_spent hid ((h.of_prefix (List.prefix_append _ _)).sane.spent other _ hget step hstep)

theorem Faithful.steps?_eq (h : Faithful ledger) (id : String) :
    (tablesAfter ledger).steps? id = some ((storeAfter ledger).stepsOf id) :=
  h.holds.steps?_eq (h.numbered id)

theorem nil_faithful : Faithful [] := by
  have hsteps : (storeAfter []).stepsOf = fun _ => [] := rfl
  constructor
  case holds => exact ⟨[], rfl, fun id => by rw [hsteps]; rfl⟩
  case numbered =>
    intro id place hplace
    rw [hsteps] at hplace
    exact absurd hplace (Nat.not_lt_zero _)

theorem Faithful.update (h : Faithful ledger) {id : String} {steps : List Step}
    (hstore : (storeAfter (ledger ++ [entry])).stepsOf = Function.update (storeAfter ledger).stepsOf id steps)
    (hholds : (tablesAfter (ledger ++ [entry])).Holds (Function.update (storeAfter ledger).stepsOf id steps))
    (hnumbered : Numbered steps) : Faithful (ledger ++ [entry]) := by
  constructor
  case holds => rwa [hstore]
  case numbered =>
    rw [hstore]
    exact (Function.forall_update_iff _ fun _ steps => Numbered steps).2 ⟨hnumbered, fun other _ => h.numbered other⟩

/-! ## What a transaction saw -/

/-- **A transaction saw the steps that its call had decided on.** -/
theorem steps_of_snapshot (h : InStep ledger) (hdue : entry.Due ledger) {id : String} {history : History}
    {change : Change} {shown : Tables} (hshown : shown ∈ entry.seen) (hread : shown.steps? id = some history.steps)
    (hfulfils : entry.transaction.Fulfils (.commit id history.last.id change)) (hfront : front <+: ledger)
    (hsnapshot : entry.transaction.snapshot = tablesAfter front) : (storeAfter front).stepsOf id = history.steps := by
  obtain ⟨early, hearly, rfl⟩ := hdue.shown shown hshown
  have hsteps : (storeAfter early).steps.get? id = some history.steps := by
    rw [(h.faithful early hearly).steps?_eq] at hread
    exact Store.get?_of_stepsOf (Option.some.inj hread) history.steps_ne_nil
  obtain ⟨last, hlast, hid⟩ := hfulfils.expected id _ _ rfl
  have hfaithful := h.faithful front hfront
  rw [hsnapshot, hfaithful.holds.lastStep?_eq (hfaithful.numbered id)] at hlast
  have hget : (storeAfter front).steps.get? id = some ((storeAfter front).stepsOf id) :=
    Store.get?_of_stepsOf rfl (List.ne_nil_of_mem (List.mem_of_getLast? hlast))
  have hlastId : Store.lastId ((storeAfter front).stepsOf id) = Store.lastId history.steps := by
    rw [Store.lastId_steps, ← hid, Store.lastId, hlast]
    rfl
  exact Traffic.steps_eq_of_lastId (Traffic.isFresh_inTurn.2 h.fresh) (Traffic.inTurn_prefix (hfront.map _))
    (Traffic.inTurn_prefix (hearly.map _)) hget hsteps hlastId

/-- a transaction that changes steps which its call was shown claims the end of their history -/
theorem claims_of_submit (h : InStep ledger) (hdue : entry.Due ledger) {history : History} {stamp : Stamp}
    {submission : Submission} {decision : Decision} {shown : Tables} (hshown : shown ∈ entry.seen)
    (hread : shown.steps? history.attemptId = some history.steps)
    (hsubmit : history.submit stamp submission = .ok decision) (hchange : decision.change.isEmpty = false)
    (hfulfils : entry.transaction.Fulfils (.commit history.attemptId history.last.id decision.change)) :
    entry.transaction.Claims history := by
  obtain ⟨front, since, rfl, hsnapshot, -⟩ := hdue.admitted
  have hfront : front <+: front ++ since := List.prefix_append _ _
  constructor
  case writes => exact ⟨_, _, hfulfils.writes, (History.submit_effect hsubmit).claimsEnd hchange⟩
  case saw =>
    refine ⟨(storeAfter front).stepsOf, ?_, steps_of_snapshot h hdue hshown hread hfulfils hfront hsnapshot⟩
    rw [hsnapshot]
    exact (h.faithful front hfront).holds

/-- **Steps that a transaction is about to change stay** as long as what is applied does not clash with it. -/
theorem kept_since {history : History} (hlog : History.ofSteps history.attemptId history.steps = .ok history)
    {transaction : Transaction} (hclaims : transaction.Claims history)
    (hsteps : (storeAfter front).stepsOf history.attemptId = history.steps) {since : List Entry}
    (h : InStep (front ++ since)) (hapart : ∀ entry ∈ since, ¬ entry.transaction.Clashes transaction) :
    (storeAfter (front ++ since)).stepsOf history.attemptId = history.steps := by
  induction since using List.reverseRecOn with
  | nil => rwa [List.append_nil]
  | append_singleton since entry ih =>
    rw [← List.append_assoc] at h ⊢
    have hbefore : InStep (front ++ since) := h.of_prefix (List.prefix_append _ _)
    have hkept : (storeAfter (front ++ since)).stepsOf history.attemptId = history.steps :=
      ih hbefore fun other hother => hapart other (List.mem_append_left _ hother)
    obtain ⟨id, before, after, hdecided, hstored, hafter⟩ := h.follows _ entry (List.prefix_refl _)
    rw [hafter]
    by_cases hid : id = history.attemptId
    · exfalso
      rw [hid, hkept] at hstored
      cases hdecided with
      | start hcall hfulfils => exact history.steps_ne_nil hstored
      | @submit _ submission expected shown view decision hcall hshown hread hlog' hdecide hchange hfulfils =>
        -- the other call decided on the same history
        obtain rfl : history = view.history := by
          rw [← hstored, hid, hlog] at hlog'
          exact Except.ok.inj hlog'
        subst hid
        have hother := claims_of_submit hbefore (h.due _ entry (List.prefix_refl _)) hshown hread
          (View.decide_eq_ok hdecide).2 hchange hfulfils
        have hdistinct := (hbefore.sane.kept _ _ (Store.get?_of_stepsOf hkept view.history.steps_ne_nil)).distinct
        exact hapart entry (List.mem_append_right _ (List.mem_singleton_self _)) (hother.clashes hclaims hdistinct)
    · rwa [Function.update_of_ne (Ne.symm hid)]

/-! ## What a transaction does -/

/-- a new attempt has no steps before, and its first one afterwards -/
theorem start_spec (h : InStep ledger) (hregular : Regular (ledger ++ [entry])) {questionId userId : String}
    (hcall : entry.ticket.call = .start questionId userId)
    (hfulfils : entry.transaction.Fulfils (.create (entry.ticket.issue.newView questionId userId).attempt
      (entry.ticket.issue.newView questionId userId).history.current)) :
    (storeAfter ledger).stepsOf entry.ticket.issue.attemptId = [] ∧
      (storeAfter (ledger ++ [entry])).stepsOf = Function.update (storeAfter ledger).stepsOf
        entry.ticket.issue.attemptId (entry.ticket.issue.newView questionId userId).history.steps ∧
      Faithful (ledger ++ [entry]) := by
  have hattempt : entry.ticket.issue.attemptId ∈ entry.ticket.ids := by simp [Ticket.ids, hcall]
  have hstep : entry.ticket.issue.stepId ∈ entry.ticket.ids := by simp [Ticket.ids, hcall]
  have hfaithful := h.faithful ledger (List.prefix_refl _)
  have hnew : (storeAfter ledger).attempts.get? entry.ticket.issue.attemptId = none := by
    cases hget : (storeAfter ledger).attempts.get? entry.ticket.issue.attemptId with
    | none => rfl
    | some attempt => exact absurd (h.sane.named _ _ hget).2 (hregular.not_spent hattempt)
  have hnone : (storeAfter ledger).stepsOf entry.ticket.issue.attemptId = [] := by
    rw [Store.stepsOf, storeAfter, h.sane.steps_eq_none hnew]
    rfl
  have hstore : (storeAfter (ledger ++ [entry])).stepsOf = Function.update (storeAfter ledger).stepsOf
      entry.ticket.issue.attemptId (entry.ticket.issue.newView questionId userId).history.steps := by
    rw [hregular.storeAfter_concat, Ticket.perform_start hcall hnew, Store.stepsOf_insert]
  refine ⟨hnone, hstore, hfaithful.update hstore ?_ ?_⟩
  · have hother : stepTable ≠ attemptTable := by simp [attemptTable, stepTable]
    let view := entry.ticket.issue.newView questionId userId
    have howner : view.history.current.attemptId = entry.ticket.issue.attemptId := rfl
    have hholds := (hfaithful.holds.insert_other view.attempt.toJson hother).insert view.history.current
      (fun id other hmem => hregular.id_ne hstep id hmem) fun other hmem => by simp [howner, hnone] at hmem
    rw [howner, hnone] at hholds
    rw [tablesAfter_concat, Transaction.applyTo, hfulfils.writes]
    exact hholds
  · exact .singleton rfl

/-- a submission finds the steps that it was decided on, and leaves those that were decided on -/
theorem submit_spec (h : InStep ledger) (hregular : Regular (ledger ++ [entry])) {id : String} {submission : Submission}
    {expected : Option String} {shown : Tables} {view : View} {decision : Decision}
    (hcall : entry.ticket.call = .submit id submission expected) (hshown : shown ∈ entry.seen)
    (hread : shown.steps? id = some view.history.steps)
    (hlog : History.ofSteps id view.history.steps = .ok view.history)
    (hdecide : view.decide submission expected entry.ticket.issue.stamp = .ok decision)
    (hchange : decision.change.isEmpty = false)
    (hfulfils : entry.transaction.Fulfils (.commit id view.history.last.id decision.change)) :
    (storeAfter ledger).stepsOf id = view.history.steps ∧
      (storeAfter (ledger ++ [entry])).stepsOf = Function.update (storeAfter ledger).stepsOf id decision.history.steps ∧
      Faithful (ledger ++ [entry]) := by
  obtain ⟨-, rfl, -, hmarked⟩ := History.ofSteps_eq_ok hlog
  have hdue := hregular.due ledger entry (List.prefix_refl _)
  have hfaithful := h.faithful ledger (List.prefix_refl _)
  have hsubmit := (View.decide_eq_ok hdecide).2
  have hkept : (storeAfter ledger).stepsOf view.history.attemptId = view.history.steps := by
    have hclaims := claims_of_submit h hdue hshown hread hsubmit hchange hfulfils
    obtain ⟨front, since, rfl, hsnapshot, hapart⟩ := hdue.admitted
    have hsaw := steps_of_snapshot h hdue hshown hread hfulfils (List.prefix_append _ _) hsnapshot
    exact kept_since hlog hclaims hsaw h hapart
  have hget := Store.get?_of_stepsOf hkept view.history.steps_ne_nil
  have hstore : (storeAfter (ledger ++ [entry])).stepsOf =
      Function.update (storeAfter ledger).stepsOf view.history.attemptId decision.history.steps := by
    obtain ⟨attempt, hattempt⟩ : ∃ attempt,
        (storeAfter ledger).attempts.get? view.history.attemptId = some attempt := by
      refine Option.isSome_iff_exists.1 ((h.sane.paired view.history.attemptId).trans ?_)
      exact Option.isSome_iff_exists.2 ⟨_, hget⟩
    have hview : (storeAfter ledger).view view.history.attemptId = .ok ⟨attempt, view.history⟩ := by
      rw [Store.view_of_get? hattempt, hkept, hlog]
      rfl
    have hdecide' : (View.mk attempt view.history).decide submission expected entry.ticket.issue.stamp = .ok decision :=
      hdecide
    rw [hregular.storeAfter_concat, Ticket.perform_accepted hcall hview hdecide', Store.keep, Store.stepsOf_insert]
  have hroom : view.history.realSteps.length < 2 ^ 32 := by
    rw [← hmarked.realSteps_steps]
    exact hregular.room ledger (List.prefix_append _ _) _ _ (hkept ▸ hfaithful.steps?_eq _)
  have hnumbered : Numbered view.history.steps := hkept ▸ hfaithful.numbered _
  have heffect := History.submit_effect hsubmit
  have hstep : entry.ticket.issue.stepId ∈ entry.ticket.ids := by simp [Ticket.ids, hcall]
  refine ⟨hkept, hstore, hfaithful.update hstore ?_ (heffect.numbered hnumbered hroom)⟩
  rw [tablesAfter_concat, Transaction.applyTo, hfulfils.writes]
  exact hfaithful.holds.change heffect hkept (h.sane.kept _ _ hget).distinct hnumbered hroom
    (fun id step hmem => hregular.id_ne hstep id hmem) _

/-- **Each transaction does to the store what its call had decided on**, and the tables keep step. -/
theorem Regular.inStep (h : Regular ledger) : InStep ledger := by
  induction ledger using List.reverseRecOn with
  | nil =>
    refine ⟨h, fun front hfront => ?_, fun earlier entry hearlier => ?_⟩
    · rw [List.prefix_nil.1 hfront]
      exact nil_faithful
    · simp at hearlier
  | append_singleton ledger entry ih =>
    have hbefore := ih (h.of_prefix (List.prefix_append _ _))
    obtain ⟨hfollows, hfaithful⟩ : entry.Follows ledger ∧ Faithful (ledger ++ [entry]) := by
      obtain ⟨id, before, after, hdecided⟩ := (h.due ledger entry (List.prefix_refl _)).decided
      have hagain := hdecided
      cases hdecided with
      | start hcall hfulfils =>
        obtain ⟨hstored, hstore, hfaithful⟩ := start_spec hbefore h hcall hfulfils
        exact ⟨⟨_, _, _, hagain, hstored, hstore⟩, hfaithful⟩
      | submit hcall hshown hread hlog hdecide hchange hfulfils =>
        obtain ⟨hstored, hstore, hfaithful⟩ := submit_spec hbefore h hcall hshown hread hlog hdecide hchange hfulfils
        exact ⟨⟨_, _, _, hagain, hstored, hstore⟩, hfaithful⟩
    refine ⟨h, fun front hfront => ?_, fun earlier other hother => ?_⟩
    · rcases List.prefix_concat_iff.1 hfront with rfl | hold
      · exact hfaithful
      · exact hbefore.faithful front hold
    · rcases List.prefix_concat_iff.1 hother with hsame | hold
      · obtain ⟨rfl, hentry⟩ := List.append_inj' hsame rfl
        obtain rfl := List.singleton_inj.1 hentry
        exact hfollows
      · exact hbefore.follows earlier other hold

end Ledgers

/-! ## No change is applied to other steps -/

/-- was a transaction applied to the steps that its call had decided on: they were there before, those that were
decided on were there afterwards, and the steps of other attempts stayed as they were -/
def Entry.IsExact (earlier : List Entry) (entry : Entry) : Prop :=
  ∃ id before after, Decided entry.ticket entry.seen entry.transaction id before after ∧
    (tablesAfter earlier).steps? id = some before ∧ (tablesAfter (earlier ++ [entry])).steps? id = some after ∧
    ∀ other, other ≠ id → (tablesAfter (earlier ++ [entry])).steps? other = (tablesAfter earlier).steps? other

theorem InStep.exact {ledger earlier : List Entry} {entry : Entry} (h : InStep ledger)
    (hearlier : earlier ++ [entry] <+: ledger) : entry.IsExact earlier := by
  obtain ⟨id, before, after, hdecided, hbefore, hafter⟩ := h.follows earlier entry hearlier
  have hfaithful := h.faithful earlier ((List.prefix_append _ _).trans hearlier)
  have hfaithful' := h.faithful (earlier ++ [entry]) hearlier
  refine ⟨id, before, after, hdecided, ?_, ?_, fun other hother => ?_⟩
  · rw [hfaithful.steps?_eq, hbefore]
  · rw [hfaithful'.steps?_eq, hafter, Function.update_self]
  · rw [hfaithful'.steps?_eq, hfaithful.steps?_eq, hafter, Function.update_of_ne hother]

/-- **Every change is applied to exactly the steps that it was decided on.**

- Whatever is done to one log, any two of its changes get into each other's way: both take away the draft that the log
  ends with, or there is none, and both add a step with the same number. Two such steps may not stand in one table.
- Calls of the service may work side by side on a database with snapshot isolation, whose commands may fail at any
  time, as long as all identities that are issued are different and there is room for the numbers of steps. Whenever
  one of their transactions is applied, the attempt has the steps that the call was shown and decided on, it has the
  steps that were decided on afterwards, and no other attempt changes. -/
theorem no_write_skew :
    (∀ {id : String} {steps : List Step} {history : History}, History.ofSteps id steps = .ok history →
      ∀ {a b : Action} {s t : Stamp} {x y : Decision}, history.act s a = .ok x → history.act t b = .ok y →
        x.change.isEmpty = false → y.change.isEmpty = false →
        (∃ last, steps.getLast? = some last ∧ History.Collide last x.change y.change) ∧
          ∀ u v, x.change.appended = some u → y.change.appended = some v → collide u.toJson v.toJson = true) ∧
    ∀ {site : Site}, site.Reached → ((site.clients.map Client.ticket).flatMap Ticket.ids).Nodup →
      (∀ front, front <+: site.ledger → (tablesAfter front).HasRoom) →
      ∀ earlier entry, earlier ++ [entry] <+: site.ledger → entry.IsExact earlier := by
  constructor
  · intro id steps history hlog a b s t x y hx hy hxchange hychange
    obtain ⟨-, -, hsteps, hmarked⟩ := History.ofSteps_eq_ok hlog
    have ha := History.act_claimsEnd hx hxchange
    have hb := History.act_claimsEnd hy hychange
    refine ⟨⟨history.last, ?_, ha.collide hmarked hb⟩, fun u v hu hv => collide_of_claimsEnd ha hb hu hv⟩
    rw [← hsteps]
    exact History.getLast?_steps history
  · intro site hreached hfresh hroom earlier entry hearlier
    have hsound := Site.sound_of_reached hreached
    have hregular : Regular site.ledger := ⟨hsound.due, hsound.ids_nodup hfresh, hroom⟩
    exact hregular.inStep.exact hearlier

/-! ## Two calls in turn -/

namespace HandedIn

/-- a call that has only come in -/
def entered (ticket : Ticket) : Client := ⟨ticket, ticket.program.via answer, ⟨Cluster.start Keyed.empty, []⟩⟩

def starting : Ticket := ⟨.start "question" "user", ⟨"attempt", "first", .year2024⟩⟩

def finishing : Ticket := ⟨.submit "attempt" (.finish Keyed.empty) none, ⟨"unused", "last", .year2024⟩⟩

def view : View := starting.issue.newView "question" "user"

def decision : Decision := view.history.push Keyed.empty .finished finishing.issue.stamp

/-- the transaction of the first call in the ledger -/
def begun (made : Transaction) : Entry := ⟨0, starting, [], made⟩

/-- the transaction of the second call in the ledger, which was shown the attempt and its steps -/
def ended (made given : Transaction) : Entry :=
  ⟨1, finishing, [tablesAfter [begun made], tablesAfter [begun made]], given⟩

theorem exists_begun :
    ∃ (made : Transaction) (client : Client),
      made.writes = writesOf (.create view.attempt view.history.current) ∧ client.ticket = starting ∧
      Relation.ReflTransGen Site.Step ⟨[entered starting, entered finishing], []⟩
        ⟨[client, entered finishing], [begun made]⟩ := by
  obtain ⟨made, report, hmade, hruns⟩ :=
    @start_undisturbed 0 starting Keyed.empty [] "question" "user" rfl rfl rfl
  exact ⟨made, _, hmade, rfl, @steps_of_runs _ _ _ _ _ _ hruns [entered starting, entered finishing] rfl⟩

section Begun

variable {made : Transaction} (hmade : made.writes = writesOf (.create view.attempt view.history.current))

include hmade

theorem documents_of_begun :
    (tablesAfter [begun made]).documents attemptTable = [view.attempt.toJson] ∧
      (tablesAfter [begun made]).documents stepTable = [view.history.current].map Step.toJson :=
  @documents_begun [] (begun made) _ _ hmade rfl rfl

theorem free_of_begun :
    ((tablesAfter [begun made]).documents stepTable).any (collide decision.history.current.toJson) = false := by
  rw [(documents_of_begun hmade).2]
  rfl

theorem exists_ended (client : Client) :
    ∃ (given : Transaction) (next : Client),
      given.writes = writesOf (.commit "attempt" "first" decision.change) ∧ next.ticket = finishing ∧
      Relation.ReflTransGen Site.Step ⟨[client, entered finishing], [begun made]⟩
        ⟨[client, next], [begun made, ended made given]⟩ := by
  obtain ⟨hattempts, hsteps⟩ := documents_of_begun hmade
  have hholds := Tables.holds_of_documents hsteps
  have hnumbered : Numbered [view.history.current] := .singleton rfl
  have hfound : (tablesAfter [begun made]).steps? "attempt" = some [view.history.current] := hholds.steps?_eq hnumbered
  have hnewest : (tablesAfter [begun made]).lastStep? "attempt" = some view.history.current :=
    hholds.lastStep?_eq hnumbered
  have hattempt : found ((tablesAfter [begun made]).documents attemptTable) [("_id", "attempt")] none (some 1) =
      [view.attempt.toJson] := by
    rw [hattempts]
    rfl
  obtain ⟨given, report, hgiven, hruns⟩ :=
    @submit_undisturbed 1 finishing Keyed.empty [begun made] "attempt" (.finish Keyed.empty) none view decision
      decision.history.current rfl hattempt hfound hnewest rfl rfl rfl rfl (free_of_begun hmade)
  exact ⟨given, _, hgiven, rfl, @steps_of_runs _ _ _ _ _ _ hruns [client, entered finishing] rfl⟩

theorem hasRoom_of_ended {given : Transaction}
    (hgiven : given.writes = writesOf (.commit "attempt" "first" decision.change)) :
    ∀ front, front <+: [begun made, ended made given] → (tablesAfter front).HasRoom := by
  have hsteps := (documents_of_begun hmade).2
  have hboth : (tablesAfter [begun made, ended made given]).documents stepTable =
      [view.history.current, decision.history.current].map Step.toJson := by
    have hadded := @documents_added [begun made] (ended made given) _ _ _ decision.history.current hgiven rfl rfl
      (free_of_begun hmade)
    rw [hsteps] at hadded
    exact hadded
  intro front hfront
  obtain rfl | ⟨rest, rfl, rfl | rfl⟩ :
      front = [] ∨ ∃ rest, front = begun made :: rest ∧ (rest = [] ∨ rest = [ended made given]) := by
    simpa [List.prefix_cons_iff] using hfront
  · exact @hasRoom_of_documents _ [] rfl (by decide)
  · exact hasRoom_of_documents hsteps (by decide)
  · exact hasRoom_of_documents hboth (by decide)

end Begun

end HandedIn

open HandedIn in
/-- an attempt is begun and handed in, by two calls that were there from the start; saving a draft and recording a step
instead would have collided with each other -/
theorem no_write_skew_handed_in :
    (∃ (history : History) (saved recorded : Decision),
      history.act ⟨"draft", .year2024⟩ (.submit (.autosave (Keyed.empty.insert "answer" "42"))) = .ok saved ∧
      history.act ⟨"step", .year2024⟩ (.record Keyed.empty .complete) = .ok recorded ∧
      History.Collide history.last saved.change recorded.change) ∧
    ∃ (site : Site) (first second : Entry), site.Reached ∧ site.ledger = [first, second] ∧
      first.IsExact [] ∧ second.IsExact [first] := by
  constructor
  · let history := History.start "attempt" ⟨"first", .year2024⟩
    let saved := history.autosave (Keyed.empty.insert "answer" "42") ⟨"draft", .year2024⟩
    let recorded := history.push Keyed.empty .complete ⟨"step", .year2024⟩
    have hlog : History.ofSteps "attempt" history.steps = .ok history := rfl
    have hsaved : history.act ⟨"draft", .year2024⟩ (.submit (.autosave (Keyed.empty.insert "answer" "42"))) =
        .ok saved := rfl
    have hrecorded : history.act ⟨"step", .year2024⟩ (.record Keyed.empty .complete) = .ok recorded := rfl
    obtain ⟨⟨last, hlast, hcollide⟩, -⟩ := no_write_skew.1 hlog hsaved hrecorded rfl rfl
    cases hlast
    exact ⟨history, saved, recorded, hsaved, hrecorded, hcollide⟩
  · have hentered : Site.Reached ⟨[entered starting, entered finishing], []⟩ :=
      .tail (.single (.enter starting)) (.enter finishing)
    obtain ⟨made, client, hmade, hclient, hbegun⟩ := exists_begun
    obtain ⟨given, next, hgiven, hnext, hended⟩ := exists_ended hmade client
    have hreached : Site.Reached ⟨[client, next], [begun made, ended made given]⟩ :=
      (hentered.trans hbegun).trans hended
    have hfresh : (([client, next].map Client.ticket).flatMap Ticket.ids).Nodup := by
      simp only [List.map_cons, List.map_nil, hclient, hnext]
      decide
    have hexact := no_write_skew.2 hreached hfresh (hasRoom_of_ended hmade hgiven)
    have hfront : [begun made] <+: [begun made, ended made given] := ⟨[ended made given], rfl⟩
    exact ⟨_, begun made, ended made given, hreached, rfl, hexact [] _ hfront,
      hexact [begun made] _ (List.prefix_refl _)⟩

end Database

end AttemptLog
