import AttemptLog.Proofs.History.Version
import AttemptLog.Proofs.Interleaving
import AttemptLog.Proofs.Service.Alone
/-!
Calls side by side on one store.

`Traffic` is a world of calls on a store in memory. `Sane` is what holds of it whatever the calls do: attempts and
lists of steps go together, each list is well kept, and what is stored carries identities of calls that came to their
end. `Grows` says how later traffic comes from earlier traffic. A call writes an attempt and its steps only if they
fit to what is stored (`fits_of_writes`), and whatever fits keeps both (`Sane.of_fits`, `Grows.of_fits`).
-/
namespace AttemptLog

/-- calls at work on a store -/
abbrev Traffic := World storeInterface Store Ticket (Report Answer)

namespace Ticket

/-- what a call writes when nobody else is at work: the record and the steps of one attempt -/
inductive Writes (store : Store) : Ticket → String → Attempt → List Step → Prop where
  | start {questionId userId : String} {issue : Issue} (hnew : store.attempts.get? issue.attemptId = none) :
    Writes store ⟨.start questionId userId, issue⟩ issue.attemptId ⟨issue.attemptId, questionId, userId, issue.now⟩
      (History.start issue.attemptId issue.stamp).steps
  | submit {id : String} {submission : Submission} {expected : Option String} {issue : Issue} {view : View}
    {decision : Decision} (hview : store.view id = .ok view)
    (hdecide : view.decide submission expected issue.stamp = .ok decision) :
    Writes store ⟨.submit id submission expected, issue⟩ id view.attempt decision.history.steps

end Ticket

theorem View.decide_eq_ok {view : View} {submission : Submission} {expected : Option String} {stamp : Stamp}
    {decision : Decision} (h : view.decide submission expected stamp = .ok decision) :
    (∀ seen, expected = some seen → seen = view.history.last.id) ∧
      view.history.submit stamp submission = .ok decision := by
  unfold decide at h
  split at h
  · cases h
  · next hseen =>
    refine ⟨fun seen heq => ?_, h⟩
    subst heq
    simpa [Option.filter] using hseen

namespace Store

theorem view_eq_ok {store : Store} {id : String} {view : View} (h : store.view id = .ok view) :
    store.attempts.get? id = some view.attempt ∧ History.ofSteps id (store.stepsOf id) = .ok view.history := by
  unfold Store.view at h
  split at h
  · cases h
  · next attempt hattempt =>
    cases hsteps : History.ofSteps id (store.stepsOf id) with
    | error failure =>
      rw [hsteps] at h
      cases h
    | ok history =>
      rw [hsteps] at h
      cases h
      exact ⟨hattempt, rfl⟩

theorem view_eq_error {store : Store} {id : String} {failure : Failure} (h : store.view id = .error failure) :
    (store.attempts.get? id = none ∧ failure = .notFound id) ∨
      ((∃ attempt, store.attempts.get? id = some attempt) ∧
        History.ofSteps id (store.stepsOf id) = .error failure) := by
  unfold Store.view at h
  split at h
  · next hattempt =>
    cases h
    exact .inl ⟨hattempt, rfl⟩
  · next attempt hattempt =>
    cases hsteps : History.ofSteps id (store.stepsOf id) with
    | error failure' =>
      rw [hsteps] at h
      cases h
      exact .inr ⟨⟨attempt, hattempt⟩, rfl⟩
    | ok history =>
      rw [hsteps] at h
      cases h

theorem view_steps {store : Store} {id : String} {view : View} (h : store.view id = .ok view) :
    view.history.steps = store.stepsOf id ∧ view.history.attemptId = id ∧ view.history.Marked := by
  obtain ⟨-, hid, hsteps, hmarked⟩ := History.ofSteps_eq_ok (view_eq_ok h).2
  exact ⟨hsteps, hid, hmarked⟩

theorem decide_eq_ok {store : Store} {id : String} {submission : Submission} {expected : Option String} {stamp : Stamp}
    {decision : Decision} (h : store.decide id submission expected stamp = .ok decision) :
    ∃ view, store.view id = .ok view ∧ view.decide submission expected stamp = .ok decision := by
  unfold decide at h
  split at h
  · cases h
  · next view hview => exact ⟨view, hview, h⟩

theorem stepsOf_of_get? {store : Store} {id : String} {steps : List Step} (h : store.steps.get? id = some steps) :
    store.stepsOf id = steps := by
  simp [stepsOf, h]

theorem get?_of_view {store : Store} {id : String} {view : View} (h : store.view id = .ok view) :
    store.steps.get? id = some view.history.steps := by
  obtain ⟨hsteps, -, -⟩ := view_steps h
  cases hstored : store.steps.get? id with
  | some steps => rw [hsteps, stepsOf_of_get? hstored]
  | none =>
    have hempty : view.history.steps = [] := by rw [hsteps, stepsOf, hstored, Option.getD_none]
    exact absurd hempty view.history.steps_ne_nil

theorem keep_of_isEmpty {store : Store} {id : String} {submission : Submission} {expected : Option String}
    {stamp : Stamp} {view : View} {decision : Decision} (hview : store.view id = .ok view)
    (hdecide : view.decide submission expected stamp = .ok decision) (hempty : decision.change.isEmpty = true) :
    store.keep id decision.history = store := by
  have heffect := History.submit_effect (View.decide_eq_ok hdecide).2
  rw [heffect.history_eq_of_isEmpty hempty, keep, Keyed.insert_of_get? (get?_of_view hview)]

end Store

theorem Ticket.perform_writes (ticket : Ticket) (store : Store) :
    (ticket.perform store).2 = store ∨
      ∃ id attempt steps, Ticket.Writes store ticket id attempt steps ∧
        (ticket.perform store).2 = ⟨store.attempts.insert id attempt, store.steps.insert id steps⟩ := by
  obtain ⟨call, issue⟩ := ticket
  cases call with
  | start questionId userId =>
    cases hcontains : store.attempts.contains issue.attemptId with
    | true => exact .inl (by simp [perform, hcontains])
    | false =>
      refine .inr ⟨_, _, _, .start (Keyed.contains_eq_false_iff.1 hcontains), ?_⟩
      simp [perform, hcontains]
  | render id | load id | size id | last id => exact .inl rfl
  | submit id submission expected =>
    cases hview : store.view id with
    | error failure => exact .inl (by simp [perform, Store.decide, hview])
    | ok view =>
      cases hdecide : view.decide submission expected issue.stamp with
      | error failure => exact .inl (by simp [perform, Store.decide, hview, hdecide])
      | ok decision =>
        refine .inr ⟨_, _, _, .submit hview hdecide, ?_⟩
        simp [perform, Store.decide, hview, hdecide, Store.keep, Keyed.insert_of_get? (Store.view_eq_ok hview).1]

namespace Traffic

abbrev step (traffic : Traffic) (move : Move Ticket) : Traffic := World.step Store.answer Ticket.program traffic move

/-- the traffic after a schedule that begins with an empty store -/
abbrev after (moves : List (Move Ticket)) : Traffic :=
  World.run Store.answer Ticket.program (World.start Store.empty) moves

/-- are all identities different that calls may give away -/
def IsFresh (moves : List (Move Ticket)) : Prop := ((Move.tickets moves).flatMap Ticket.ids).Nodup

instance (moves : List (Move Ticket)) : Decidable (IsFresh moves) := inferInstanceAs (Decidable (List.Nodup _))

/-- was an identity issued to a call that came to its end -/
def Spent (traffic : Traffic) (id : String) : Prop := ∃ ending ∈ traffic.endings, id ∈ ending.ticket.ids

/-- what holds of the store and of the identities of calls -/
structure Sane (traffic : Traffic) : Prop where
  settled : traffic.Settled
  fresh : (traffic.tickets.flatMap Ticket.ids).Nodup
  paired : ∀ id, (traffic.state.attempts.get? id).isSome = (traffic.state.steps.get? id).isSome
  named : ∀ id attempt, traffic.state.attempts.get? id = some attempt → attempt.id = id ∧ Spent traffic id
  kept : ∀ id steps, traffic.state.steps.get? id = some steps → WellKept id steps
  spent : ∀ id steps, traffic.state.steps.get? id = some steps → ∀ step ∈ steps, Spent traffic step.id
  apart : ∀ a b as bs, traffic.state.steps.get? a = some as → traffic.state.steps.get? b = some bs →
    ∀ s ∈ as, ∀ t ∈ bs, s.id = t.id → a = b

/-- does later traffic come from earlier traffic -/
structure Grows (earlier later : Traffic) : Prop where
  attempts : ∀ id attempt, earlier.state.attempts.get? id = some attempt →
    later.state.attempts.get? id = some attempt
  steps : ∀ id before, earlier.state.steps.get? id = some before →
    ∃ after, later.state.steps.get? id = some after ∧ Continues (Spent earlier) before after
  spent : ∀ id, Spent earlier id → Spent later id

theorem Grows.refl (traffic : Traffic) : Grows traffic traffic :=
  ⟨fun _ _ h => h, fun _ steps h => ⟨steps, h, .refl _ _⟩, fun _ h => h⟩

theorem Grows.trans {a b c : Traffic} (ha : Sane a) (hab : Grows a b) (hbc : Grows b c) : Grows a c where
  attempts id attempt h := hbc.attempts id attempt (hab.attempts id attempt h)
  steps id before h := by
    obtain ⟨middle, hmiddle, hfirst⟩ := hab.steps id before h
    obtain ⟨after, hafter, hsecond⟩ := hbc.steps id middle hmiddle
    exact ⟨after, hafter, hfirst.trans hsecond hab.spent (ha.spent id before h)⟩
  spent id h := hbc.spent id (hab.spent id h)

/-- **The last step of an attempt tells its steps**: what is stored for it is the same whenever the last step is. -/
theorem Grows.eq_of_lastId {earlier later : Traffic} (h : Grows earlier later) (hearlier : Sane earlier)
    (hlater : Sane later) {id : String} {before after : List Step}
    (hbefore : earlier.state.steps.get? id = some before) (hafter : later.state.steps.get? id = some after)
    (hid : Store.lastId before = Store.lastId after) : before = after := by
  obtain ⟨after', hafter', hcontinues⟩ := h.steps id before hbefore
  obtain rfl : after' = after := by rw [hafter'] at hafter; exact Option.some.inj hafter
  exact hcontinues.eq_of_lastId (hearlier.kept id before hbefore) (hlater.kept id after' hafter)
    (hearlier.spent id before hbefore) hid

namespace Sane

variable {traffic : Traffic}

theorem steps_eq_none (h : Sane traffic) {id : String} (hnew : traffic.state.attempts.get? id = none) :
    traffic.state.steps.get? id = none := by
  have hpaired := h.paired id
  rw [hnew] at hpaired
  simpa using hpaired.symm

theorem place_eq (h : Sane traffic) {p q : Nat} {s t : Job storeInterface Ticket (Report Answer)}
    (hp : traffic.jobs[p]? = some s) (hq : traffic.jobs[q]? = some t) {id : String} (hs : id ∈ s.ticket.ids)
    (ht : id ∈ t.ticket.ids) : p = q := by
  have hissued : ∀ (place : Nat) (job : Job storeInterface Ticket (Report Answer)),
      traffic.jobs[place]? = some job → traffic.tickets[place]? = some job.ticket := by
    intro place job hjob
    rw [World.tickets, List.getElem?_map, hjob, Option.map_some]
  by_contra hne
  exact Ticket.ids_disjoint h.fresh (hissued p s hp) (hissued q t hq) hne hs ht

theorem not_spent (h : Sane traffic) {place : Nat} {ticket : Ticket} {request : Query}
    {next : Except Failure request.Answer → Program storeInterface (Report Answer)}
    (hjob : traffic.jobs[place]? = some ⟨ticket, .ask request next⟩) {id : String} (hid : id ∈ ticket.ids) :
    ¬ Spent traffic id := by
  rintro ⟨ending, hmem, hending⟩
  have hdone := h.settled.done ending hmem
  obtain rfl := h.place_eq hjob hdone hid hending
  rw [hjob] at hdone
  cases hdone

end Sane

/-! ## What calls write -/

/-- does an attempt with its steps, as a call writes them, fit to what is stored -/
structure Fits (traffic : Traffic) (ticket : Ticket) (id : String) (attempt : Attempt) (steps : List Step) : Prop where
  named : attempt.id = id
  known : id ∈ ticket.ids ∨ Spent traffic id
  same : ∀ other, traffic.state.attempts.get? id = some other → other = attempt
  kept : WellKept id steps
  old : ∀ step ∈ steps, step ∈ traffic.state.stepsOf id ∨ step.id ∈ ticket.ids
  continues : ∀ before, traffic.state.steps.get? id = some before → Continues (Spent traffic) before steps

/-- **What a call writes fits**, while it is still at work. -/
theorem fits_of_writes {traffic : Traffic} (h : Sane traffic) {place : Nat} {ticket : Ticket} {request : Query}
    {next : Except Failure request.Answer → Program storeInterface (Report Answer)}
    (hjob : traffic.jobs[place]? = some ⟨ticket, .ask request next⟩) {id : String} {attempt : Attempt}
    {steps : List Step} (hwrites : Ticket.Writes traffic.state ticket id attempt steps) :
    Fits traffic ticket id attempt steps := by
  cases hwrites with
  | @start questionId userId issue hnew =>
    have hsteps := h.steps_eq_none hnew
    refine ⟨rfl, .inl (by simp [Ticket.ids]), ?_, WellKept.initial_only rfl ⟨rfl, rfl, rfl, rfl⟩, ?_, ?_⟩
    · intro other hother
      rw [hnew] at hother
      cases hother
    · intro step hmem
      obtain rfl := List.mem_singleton.1 hmem
      exact .inr (List.mem_cons_of_mem _ List.mem_cons_self)
    · intro before hbefore
      rw [hsteps] at hbefore
      cases hbefore
  | @submit id submission expected issue view decision hview hdecide =>
    have heffect := History.submit_effect (View.decide_eq_ok hdecide).2
    obtain ⟨hsteps, rfl, hmarked⟩ := Store.view_steps hview
    have hattempt := (Store.view_eq_ok hview).1
    have hstored := Store.get?_of_view hview
    have hspent := h.spent _ _ hstored
    have hnew : ¬ Spent traffic issue.stamp.id := h.not_spent hjob (by simp [Ticket.ids, Issue.stamp])
    refine ⟨(h.named _ _ hattempt).1, .inr (h.named _ _ hattempt).2, ?_, ?_, ?_, ?_⟩
    · intro other hother
      rw [hattempt] at hother
      exact (Option.some.inj hother).symm
    · exact heffect.wellKept hmarked (h.kept _ _ hstored) fun step hmem hid => hnew (hid ▸ hspent step hmem)
    · intro step hmem
      rw [← hsteps]
      exact (heffect.mem_steps hmem).imp_right fun hid => by simp [Ticket.ids, hid, Issue.stamp]
    · intro before hbefore
      obtain rfl : view.history.steps = before := by
        rw [hstored] at hbefore
        exact Option.some.inj hbefore
      exact heffect.continues hmarked hspent hnew

/-- a step that a call writes was stored for the same attempt before, or carries an identity of the call -/
theorem Fits.origin {traffic : Traffic} {ticket : Ticket} {id : String} {attempt : Attempt} {steps : List Step}
    (hfits : Fits traffic ticket id attempt steps) {step : Step} (hmem : step ∈ steps) :
    (∃ before, traffic.state.steps.get? id = some before ∧ step ∈ before) ∨ step.id ∈ ticket.ids := by
  refine (hfits.old step hmem).imp_left fun hstep => ?_
  cases hbefore : traffic.state.steps.get? id with
  | none => simp [Store.stepsOf, hbefore] at hstep
  | some before => exact ⟨before, rfl, by simpa [Store.stepsOf, hbefore] using hstep⟩

/-- a step that a call writes shares its identity with stored steps of the same attempt only -/
theorem Fits.apart {traffic : Traffic} (h : Sane traffic) {ticket : Ticket} {id : String} {attempt : Attempt}
    {steps : List Step} (hfits : Fits traffic ticket id attempt steps)
    (hnew : ∀ other ∈ ticket.ids, ¬ Spent traffic other) {other : String} {stored : List Step}
    (hstored : traffic.state.steps.get? other = some stored) {s t : Step} (hs : s ∈ steps) (ht : t ∈ stored)
    (heq : s.id = t.id) : other = id := by
  rcases hfits.origin hs with ⟨before, hbefore, hmem⟩ | hid
  · exact h.apart other id stored before hstored hbefore t ht s hmem heq.symm
  · rw [heq] at hid
    exact absurd (h.spent other stored hstored t ht) (hnew _ hid)

theorem Sane.of_fits {traffic next : Traffic} (h : Sane traffic) {ticket : Ticket} {id : String} {attempt : Attempt}
    {steps : List Step} (hfits : Fits traffic ticket id attempt steps)
    (hstate : next.state = ⟨traffic.state.attempts.insert id attempt, traffic.state.steps.insert id steps⟩)
    (hsettled : next.Settled) (hfresh : (next.tickets.flatMap Ticket.ids).Nodup)
    (hspent : ∀ other, Spent traffic other → Spent next other) (hids : ∀ other ∈ ticket.ids, Spent next other)
    (hnew : ∀ other ∈ ticket.ids, ¬ Spent traffic other) : Sane next where
  settled := hsettled
  fresh := hfresh
  paired other := by
    rw [hstate, Keyed.get?_insert, Keyed.get?_insert]
    split
    · rfl
    · exact h.paired other
  named other attempt' hget := by
    rw [hstate] at hget
    rcases Keyed.get?_insert_eq_some.1 hget with ⟨rfl, rfl⟩ | ⟨-, hget⟩
    · exact ⟨hfits.named, hfits.known.elim (hids _) (hspent _)⟩
    · obtain ⟨hname, hother⟩ := h.named other attempt' hget
      exact ⟨hname, hspent _ hother⟩
  kept other steps' hget := by
    rw [hstate] at hget
    rcases Keyed.get?_insert_eq_some.1 hget with ⟨rfl, rfl⟩ | ⟨-, hget⟩
    · exact hfits.kept
    · exact h.kept other steps' hget
  spent other steps' hget step hmem := by
    rw [hstate] at hget
    rcases Keyed.get?_insert_eq_some.1 hget with ⟨rfl, rfl⟩ | ⟨-, hget⟩
    · rcases hfits.origin hmem with ⟨before, hbefore, hold⟩ | hid
      · exact hspent _ (h.spent other before hbefore step hold)
      · exact hids _ hid
    · exact hspent _ (h.spent other steps' hget step hmem)
  apart a b as bs ha hb s hs t ht heq := by
    rw [hstate] at ha hb
    rcases Keyed.get?_insert_eq_some.1 ha with ⟨rfl, rfl⟩ | ⟨-, hold⟩
    · rcases Keyed.get?_insert_eq_some.1 hb with ⟨rfl, rfl⟩ | ⟨-, hold⟩
      · rfl
      · exact (hfits.apart h hnew hold hs ht heq).symm
    · rcases Keyed.get?_insert_eq_some.1 hb with ⟨rfl, rfl⟩ | ⟨-, hold'⟩
      · exact hfits.apart h hnew hold ht hs heq.symm
      · exact h.apart a b as bs hold hold' s hs t ht heq

theorem Grows.of_fits {traffic next : Traffic} {ticket : Ticket} {id : String} {attempt : Attempt}
    {steps : List Step} (hfits : Fits traffic ticket id attempt steps)
    (hstate : next.state = ⟨traffic.state.attempts.insert id attempt, traffic.state.steps.insert id steps⟩)
    (hspent : ∀ other, Spent traffic other → Spent next other) : Grows traffic next where
  attempts other attempt' hget := by
    rw [hstate, Keyed.get?_insert]
    split
    · next hother =>
      subst hother
      rw [hfits.same attempt' hget]
    · exact hget
  steps other before hget := by
    rw [hstate, Keyed.get?_insert]
    split
    · next hother =>
      subst hother
      exact ⟨steps, rfl, hfits.continues before hget⟩
    · exact ⟨before, hget, .refl _ _⟩
  spent := hspent

/-! ## Moves that store nothing -/

theorem Sane.of_state_eq {traffic next : Traffic} (h : Sane traffic) (hstate : next.state = traffic.state)
    (hsettled : next.Settled) (hfresh : (next.tickets.flatMap Ticket.ids).Nodup)
    (hspent : ∀ id, Spent traffic id → Spent next id) : Sane next where
  settled := hsettled
  fresh := hfresh
  paired id := by
    rw [hstate]
    exact h.paired id
  named id attempt hget := by
    rw [hstate] at hget
    exact ⟨(h.named id attempt hget).1, hspent id (h.named id attempt hget).2⟩
  kept id steps hget := by
    rw [hstate] at hget
    exact h.kept id steps hget
  spent id steps hget step hmem := by
    rw [hstate] at hget
    exact hspent _ (h.spent id steps hget step hmem)
  apart a b as bs ha hb := by
    rw [hstate] at ha hb
    exact h.apart a b as bs ha hb

theorem Grows.of_state_eq {traffic next : Traffic} (hstate : next.state = traffic.state)
    (hspent : ∀ id, Spent traffic id → Spent next id) : Grows traffic next where
  attempts id attempt hget := by rwa [hstate]
  steps id before hget := ⟨before, by rwa [hstate], .refl _ _⟩
  spent := hspent

end Traffic

end AttemptLog
