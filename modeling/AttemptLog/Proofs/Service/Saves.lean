import AttemptLog.Proofs.Service.CarriedOut
import AttemptLog.Proofs.Service.Closed
import AttemptLog.Proofs.Service.LastStep
/-!
Saves never repeat a response.

A save looks at the last real step that was read, and the step that it adds is stored behind that one or not at all.
So each real step was written by a call (`Wrote`), and if its response is that of the real step before it, the call
was none of the saves (`after_authored`). A save that comes after another one with the same response has nothing left
to change, wherever it gets its turns, as long as nobody else changes the attempt (`IsIdle.steps_kept`,
`IsIdle.ending`). `saves_never_repeat` is both.
-/
namespace AttemptLog

/-- may the real step that a submission adds have the response of the one before -/
def Submission.repeats : Submission → Bool
  | .append _ | .finish _ | .grade _ _ => true
  | .save _ | .autosave _ => false

namespace History

/-! ## One submission -/

/-- does a decision add a real step, which has the response of the one before only if the submission may repeat it -/
structure Lengthens (history : History) (stamp : Stamp) (submission : Submission) (decision : Decision) : Prop where
  steps : decision.history.realSteps = history.realSteps ++ [decision.history.current]
  outcome : decision.change.outcome = .appended
  last : decision.history.last = decision.history.current
  issued : decision.history.current.id = stamp.id
  differs : decision.history.current.response = history.current.response → submission.repeats = true

theorem push_lengthens (history : History) {response : Response} (state : State) (stamp : Stamp)
    {submission : Submission} (hrepeats : response = history.current.response → submission.repeats = true) :
    Lengthens history stamp submission (history.push response state stamp) :=
  ⟨rfl, rfl, rfl, rfl, hrepeats⟩

/-- **A submission leaves the real steps as they are or adds one to them.** -/
theorem submit_realSteps {history : History} {stamp : Stamp} {submission : Submission} {decision : Decision}
    (h : history.submit stamp submission = .ok decision) :
    decision.history.realSteps = history.realSteps ∨ Lengthens history stamp submission decision := by
  cases submission with
  | append response =>
    obtain ⟨-, rfl⟩ := record_eq_ok h
    exact .inr (push_lengthens history _ stamp fun _ => rfl)
  | finish response =>
    have hrecord : history.record response .finished stamp = .ok decision := h
    obtain ⟨-, rfl⟩ := record_eq_ok hrecord
    exact .inr (push_lengthens history _ stamp fun _ => rfl)
  | grade verdict response =>
    obtain ⟨-, rfl⟩ := record_eq_ok h
    exact .inr (push_lengthens history _ stamp fun _ => rfl)
  | save response =>
    obtain ⟨-, rfl⟩ := whenOpen_eq_ok h
    by_cases hsame : response = history.current.response
    · rw [save, if_pos hsame]
      exact .inl rfl
    · rw [save, if_neg hsame]
      exact .inr (push_lengthens history _ stamp fun hrepeated => absurd hrepeated hsame)
  | autosave response =>
    obtain ⟨-, rfl⟩ := whenOpen_eq_ok h
    rcases autosave_cases history response stamp with hdraft | hdraft | ⟨outcome, -, hdraft⟩ <;>
    · rw [hdraft]
      exact .inl rfl

theorem isClosed_push (history : History) (response : Response) (state : State) (stamp : Stamp) :
    (history.push response state stamp).history.isClosed = (history.isClosed || state.isClosing) := by
  simp [isClosed, push, History.realSteps, following, Bool.or_assoc]

/-- does a submission change nothing whenever it is made -/
def Idle (history : History) (submission : Submission) (outcome : Outcome) : Prop :=
  ∀ stamp, history.submit stamp submission = .ok ⟨⟨outcome, none, none⟩, history⟩

/-- **A save that went through leaves nothing to do for the same save.** -/
theorem save_idle {history : History} {stamp : Stamp} {response : Response} {decision : Decision}
    (h : history.submit stamp (.save response) = .ok decision) : decision.history.Idle (.save response) .discarded := by
  intro later
  obtain ⟨hopen, rfl⟩ := whenOpen_eq_ok h
  have hdone : ∀ next : History, next.isClosed = false → next.draft = none → response = next.current.response →
      next.submit later (.save response) = .ok ⟨⟨.discarded, none, none⟩, next⟩ := by
    intro next hnext hdraft hsame
    have hbare : { next with draft := none } = next := by rw [← hdraft]
    simp only [submit, save, if_pos hsame, dropDraft, whenOpen, hnext, hdraft, hbare, Option.map_none,
      Bool.false_eq_true, ite_false]
  by_cases hsame : response = history.current.response
  · rw [save, if_pos hsame]
    exact hdone _ hopen rfl hsame
  · rw [save, if_neg hsame]
    refine hdone _ ?_ rfl rfl
    rw [isClosed_push, hopen, isClosing_ofResponse, Bool.or_false]

end History

/-! ## Who wrote a step -/

/-- did a call write a step: it handed something in for the attempt, and its receipt says that this step was added -/
structure Ended.Wrote (ending : Ended) (id : String) (submission : Submission) (step : Step) : Prop where
  call : ∃ expected, ending.ticket.call = .submit id submission expected
  issued : step.id = ending.ticket.issue.stepId
  receipt : ∃ size, ending.result.result = .ok (.receipt ⟨.appended, size, step⟩)

theorem Ended.Wrote.mem_ids {ending : Ended} {id : String} {submission : Submission} {step : Step}
    (h : ending.Wrote id submission step) : step.id ∈ ending.ticket.ids := by
  obtain ⟨expected, hcall⟩ := h.call
  rw [Ticket.ids, hcall, h.issued]
  exact List.mem_singleton_self _

theorem Ticket.perform_stepsOf (ticket : Ticket) (store : Store) (id : String) :
    (ticket.perform store).2.stepsOf id = store.stepsOf id ∨
      (∃ stamp, (ticket.perform store).2.stepsOf id = (History.start id stamp).steps) ∨
      ∃ submission expected view decision, ticket.call = .submit id submission expected ∧ store.view id = .ok view ∧
        view.decide submission expected ticket.issue.stamp = .ok decision ∧
        ticket.perform store = (submission.accepted decision, store.keep id decision.history) := by
  obtain ⟨call, issue⟩ := ticket
  cases call with
  | start questionId userId =>
    by_cases hcontains : store.attempts.contains issue.attemptId = true
    · exact .inl (by simp [perform, hcontains])
    · by_cases hid : id = issue.attemptId
      · subst hid
        exact .inr (.inl ⟨issue.stamp, by simp [perform, hcontains, Store.stepsOf]⟩)
      · exact .inl (by simp [perform, hcontains, Store.stepsOf, hid])
  | render other | load other | size other | last other => exact .inl rfl
  | submit other submission expected =>
    cases hdecide : store.decide other submission expected issue.stamp with
    | error failure => exact .inl (by simp [perform, hdecide])
    | ok decision =>
      by_cases hid : id = other
      · subst hid
        obtain ⟨view, hview, hdecided⟩ := Store.decide_eq_ok hdecide
        exact .inr (.inr ⟨submission, expected, view, decision, rfl, hview, hdecided, by simp [perform, hdecide]⟩)
      · exact .inl (by simp [perform, hdecide, Store.keep, Store.stepsOf, hid])

namespace Traffic

/-- did a call write the later one of two real steps, and none of the saves if both have one response -/
def Authored (traffic : Traffic) (id : String) (earlier later : Step) : Prop :=
  ∃ ending ∈ traffic.endings, ∃ submission, Ended.Wrote ending id submission later ∧
    (later.response = earlier.response → submission.repeats = true)

/-- are all real steps of an attempt authored that follow another one -/
def AllAuthored (traffic : Traffic) (id : String) : Prop :=
  List.IsChain (traffic.Authored id) (realSteps (traffic.state.stepsOf id))

theorem Authored.mono {traffic next : Traffic} (hendings : ∀ ending ∈ traffic.endings, ending ∈ next.endings)
    {id : String} {earlier later : Step} (h : traffic.Authored id earlier later) :
    next.Authored id earlier later := by
  obtain ⟨ending, hmem, hwrote⟩ := h
  exact ⟨ending, hendings ending hmem, hwrote⟩

theorem mem_endings_step {traffic : Traffic} (move : Move Ticket) :
    ∀ ending ∈ traffic.endings, ending ∈ (traffic.step move).endings := by
  intro ending hmem
  rcases World.step_endings Ticket.program_asks traffic move with hsame | ⟨other, -, -, hmore⟩
  · rwa [Traffic.step, hsame]
  · rw [Traffic.step, hmore]
    exact List.mem_append_left _ hmem

theorem authored_of_lengthens {traffic : Traffic} {ending : Ended} (hmem : ending ∈ traffic.endings) {id : String}
    {submission : Submission} {expected : Option String} (hcall : ending.ticket.call = .submit id submission expected)
    {history : History} {decision : Decision}
    (hadds : History.Lengthens history ending.ticket.issue.stamp submission decision)
    (hresult : ending.result = submission.accepted decision) :
    traffic.Authored id history.current decision.history.current := by
  refine ⟨ending, hmem, submission, ⟨⟨expected, hcall⟩, hadds.issued, decision.history.size, ?_⟩, hadds.differs⟩
  rw [hresult, Submission.accepted, Decision.receipt, hadds.outcome, hadds.last]

/-- a submission that is carried out keeps all steps authored -/
theorem submission_authored {traffic : Traffic} {ending : Ended} (hmem : ending ∈ traffic.endings) {id : String}
    {submission : Submission} {expected : Option String} (hcall : ending.ticket.call = .submit id submission expected)
    {history : History} {decision : Decision}
    (hsubmit : history.submit ending.ticket.issue.stamp submission = .ok decision)
    (hresult : ending.result = submission.accepted decision)
    (hall : List.IsChain (traffic.Authored id) history.realSteps) :
    List.IsChain (traffic.Authored id) decision.history.realSteps := by
  rcases History.submit_realSteps hsubmit with hsame | hadds
  · rwa [hsame]
  · have hauthored := authored_of_lengthens hmem hcall hadds hresult
    rw [hadds.steps]
    refine List.isChain_append.2 ⟨hall, List.isChain_singleton _, fun last hlast first hfirst => ?_⟩
    -- the new step stands behind the last real step that was read
    rw [History.getLast?_realSteps] at hlast
    cases hlast
    cases hfirst
    exact hauthored

/-- **One move keeps all steps authored.** -/
theorem step_authored {traffic : Traffic} (h : Inv traffic) {id : String} (hall : AllAuthored traffic id)
    (move : Move Ticket) : AllAuthored (traffic.step move) id := by
  have hkept : List.IsChain ((traffic.step move).Authored id) (realSteps (traffic.state.stepsOf id)) :=
    hall.imp fun _ _ => Authored.mono (mem_endings_step move)
  rcases step_carriedOut h move with ⟨-, hstate⟩ | ⟨ending, hcarried, hperform⟩
  · rwa [AllAuthored, hstate]
  · have hstate : (traffic.step move).state = (ending.ticket.perform traffic.state).2 := by rw [hperform]
    have hmem : ending ∈ (traffic.step move).endings := by
      have hlisted : ending ∈ (traffic.step move).carriedOut := by simp [hcarried]
      exact (List.mem_filter.1 hlisted).1
    rw [AllAuthored, hstate]
    rcases ending.ticket.perform_stepsOf traffic.state id with hsame | ⟨stamp, hstart⟩ |
      ⟨submission, expected, view, decision, hcall, hview, hdecide, hdone⟩
    · rwa [hsame]
    · rw [hstart]
      exact List.isChain_singleton _
    · obtain ⟨hsteps, -, hmarked⟩ := Store.view_steps hview
      have hsubmit := (View.decide_eq_ok hdecide).2
      have hnext := ((History.submit_effect hsubmit).marked hmarked).realSteps_steps
      have hresult : ending.result = submission.accepted decision := by
        rw [hperform] at hdone
        exact congrArg Prod.fst hdone
      rw [← hsteps, hmarked.realSteps_steps] at hkept
      rw [hdone, Store.stepsOf_keep, hnext]
      exact submission_authored hmem hcall hsubmit hresult hkept

/-- **Each real step that follows another one was written by a call**, after every schedule. -/
theorem after_authored {moves : List (Move Ticket)} (hfresh : IsFresh moves) (id : String) :
    AllAuthored (after moves) id := by
  induction moves using List.reverseRecOn with
  | nil => exact List.isChain_nil
  | append_singleton moves move ih =>
    rw [after_concat]
    exact step_authored (after_inv hfresh.of_append) (ih hfresh.of_append) move

/-- a step was written by one submission only -/
theorem submission_of_wrote {traffic : Traffic} (h : Sane traffic) {id : String} {a b : Ended}
    (ha : a ∈ traffic.endings) (hb : b ∈ traffic.endings) {s t : Submission} {step : Step} (hs : a.Wrote id s step)
    (ht : b.Wrote id t step) :
    s = t := by
  have hadone := h.settled.done a ha
  have hbdone := h.settled.done b hb
  have hplace : a.place = b.place := h.place_eq hadone hbdone hs.mem_ids ht.mem_ids
  have hticket : a.ticket = b.ticket := by
    rw [hplace, hbdone, Option.some.injEq, Job.mk.injEq] at hadone
    exact hadone.1.symm
  obtain ⟨expected, hacall⟩ := hs.call
  obtain ⟨expected', hbcall⟩ := ht.call
  rw [hticket, hbcall] at hacall
  cases hacall
  rfl

/-- what a save wrote differs from the real step before it -/
theorem differs_of_save {traffic : Traffic} (h : Sane traffic) {id : String} {earlier later : Step}
    (hauthored : traffic.Authored id earlier later) {ending : Ended} (hmem : ending ∈ traffic.endings)
    {response : Response} (hwrote : ending.Wrote id (.save response) later) : later.response ≠ earlier.response := by
  obtain ⟨author, hauthor, submission, hwritten, hrepeats⟩ := hauthored
  intro hsame
  obtain rfl := submission_of_wrote h hauthor hmem hwritten hwrote
  cases hrepeats hsame

/-! ## A save once more -/

/-- is nobody's change of an attempt carried out in a part of a schedule, but that of the call at a place -/
def OnlyChangedBy (place : Nat) (before part : List (Move Ticket)) (id : String) : Prop :=
  ∀ early other late, part = early ++ .advance other :: late → Commits (after (before ++ early)) id other →
    other = place

theorem view_of_steps {moves : List (Move Ticket)} (hfresh : IsFresh moves) {id : String} {history : History}
    (hsteps : (after moves).state.steps.get? id = some history.steps) (hmarked : history.Marked)
    (hid : history.attemptId = id) :
    (∃ attempt, (after moves).state.view id = .ok ⟨attempt, history⟩) ∨
      2 ^ 32 ≤ (realSteps history.steps).length ∧ ∃ flaw, (after moves).state.view id = .error (.corrupt id flaw) := by
  cases hview : (after moves).state.view id with
  | ok view =>
    obtain ⟨hstored, hsame, hread⟩ := Store.view_steps hview
    rw [Store.stepsOf_of_get? hsteps] at hstored
    obtain rfl : view.history = history := hread.eq_of_steps hmarked (hsame.trans hid.symm) hstored
    exact .inl ⟨view.attempt, rfl⟩
  | error failure =>
    obtain ⟨hmany, flaw, rfl⟩ := corrupt_of_view_error hfresh hsteps hview
    exact .inr ⟨hmany, flaw, rfl⟩

/-- does a call hand in, without a last step, what changes nothing about a history of an attempt -/
structure IsIdle (ticket : Ticket) (id : String) (history : History) (submission : Submission) (outcome : Outcome) :
    Prop where
  call : ticket.call = .submit id submission none
  owner : history.attemptId = id
  marked : history.Marked
  idle : history.Idle submission outcome

/-- what an idle call comes to: the receipt shows the history as it is, and nothing is counted; if the numbers of the
steps have begun again at zero, the call fails -/
def ComesToNothing (history : History) (submission : Submission) (outcome : Outcome) (report : Report Answer) : Prop :=
  report = ⟨.ok (.receipt ⟨outcome, history.size, history.last⟩), Service.countsOf submission ⟨outcome, none, none⟩⟩ ∨
    2 ^ 32 ≤ (realSteps history.steps).length ∧ ∃ flaw, report = ⟨.error (.corrupt history.attemptId flaw), []⟩

section Idle

variable {id : String} {history : History} {submission : Submission} {outcome : Outcome} {ticket : Ticket}

theorem IsIdle.perform (h : IsIdle ticket id history submission outcome) {moves : List (Move Ticket)}
    (hfresh : IsFresh moves) (hsteps : (after moves).state.steps.get? id = some history.steps) :
    ComesToNothing history submission outcome (ticket.perform (after moves).state).1 := by
  rcases view_of_steps hfresh hsteps h.marked h.owner with ⟨attempt, hview⟩ | ⟨hmany, flaw, hview⟩
  · have hdecide : (after moves).state.decide id submission none ticket.issue.stamp =
        .ok ⟨⟨outcome, none, none⟩, history⟩ := by
      rw [Store.decide, hview]
      exact h.idle ticket.issue.stamp
    simp only [Ticket.perform, h.call, hdecide]
    exact .inl rfl
  · simp only [Ticket.perform, h.call, Store.decide, hview]
    exact .inr ⟨hmany, flaw, by rw [h.owner]; rfl⟩

theorem IsIdle.isEmpty_of_decide (h : IsIdle ticket id history submission outcome) {moves : List (Move Ticket)}
    (hfresh : IsFresh moves) (hsteps : (after moves).state.steps.get? id = some history.steps) {decision : Decision}
    (hdecide : (after moves).state.decide id submission none ticket.issue.stamp = .ok decision) :
    decision.change.isEmpty = true := by
  rw [Store.decide] at hdecide
  rcases view_of_steps hfresh hsteps h.marked h.owner with ⟨attempt, hview⟩ | ⟨-, flaw, hview⟩
  · rw [hview] at hdecide
    have hsubmit : history.submit ticket.issue.stamp submission = .ok decision := hdecide
    rw [h.idle ticket.issue.stamp] at hsubmit
    cases hsubmit
    rfl
  · rw [hview] at hdecide
    cases hdecide

variable {before late : List (Move Ticket)}

theorem prefix_of_late {front : List (Move Ticket)} (h : front <+: late) :
    before ++ .enter ticket :: front <+: before ++ .enter ticket :: late :=
  (List.prefix_append_right_inj _).2 (List.cons_prefix_cons.2 ⟨rfl, h⟩)

/-- an idle call hands nothing in as long as the steps stay as they are -/
theorem IsIdle.hands_nothing_in (h : IsIdle ticket id history submission outcome)
    (hfresh : IsFresh (before ++ .enter ticket :: late))
    (hkept : ∀ front, front <+: late → (after (before ++ .enter ticket :: front)).state.steps.get? id =
      some history.steps) :
    ∃ rest, (after (before ++ .enter ticket :: late)).jobs[(Move.tickets before).length]? = some ⟨ticket, rest⟩ ∧
      ∀ other last change go, rest ≠ .ask (.commit other last change) go :=
  has_no_change hfresh h.call fun front hfront _ =>
    h.isEmpty_of_decide (hfresh.of_front (prefix_of_late hfront)) (hkept front hfront)

theorem not_commits {traffic : Traffic} {place : Nat} {rest : Program storeInterface (Report Answer)}
    (hjob : traffic.jobs[place]? = some ⟨ticket, rest⟩)
    (hnever : ∀ other last change go, rest ≠ .ask (.commit other last change) go) : ¬Commits traffic id place := by
  rintro ⟨expected, change, next, hasks, -⟩
  simp only [World.asks?, hjob] at hasks
  cases rest with
  | done report => cases hasks
  | ask request go =>
    cases hasks
    exact hnever _ _ _ _ rfl

/-- **The steps stay as they are while an idle call is at work**, if nobody else changes them. -/
theorem IsIdle.steps_kept (h : IsIdle ticket id history submission outcome)
    (hfresh : IsFresh (before ++ .enter ticket :: late))
    (hsteps : (after before).state.steps.get? id = some history.steps)
    (honly : OnlyChangedBy (Move.tickets before).length before (.enter ticket :: late) id) :
    ∀ front, front <+: late → (after (before ++ .enter ticket :: front)).state.steps.get? id = some history.steps := by
  induction late using List.reverseRecOn with
  | nil =>
    intro front hfront
    rw [List.prefix_nil.1 hfront, after_concat]
    exact hsteps
  | append_singleton late move ih =>
    have hsplit : before ++ .enter ticket :: (late ++ [move]) = (before ++ .enter ticket :: late) ++ [move] := by simp
    rw [hsplit] at hfresh
    have hkept := ih hfresh.of_append fun early other rest hpart hcommits =>
      honly early other (rest ++ [move]) (by rw [← List.cons_append, hpart]; simp) hcommits
    intro front hfront
    rcases List.prefix_concat_iff.1 hfront with rfl | hfront
    · rw [hsplit, after_concat]
      rcases step_steps (after_inv hfresh.of_append).toSane (hkept late (List.prefix_refl _)) move with
        hsame | ⟨place, rfl, hcommits⟩
      · exact hsame
      · -- only the call itself may change anything, and it has nothing to hand in
        obtain rfl := honly (.enter ticket :: late) place [] rfl hcommits
        obtain ⟨rest, hjob, hnever⟩ := h.hands_nothing_in hfresh.of_append hkept
        exact absurd hcommits (not_commits hjob hnever)
    · exact hkept front hfront

/-- **An idle call comes to nothing**, whenever it gets its turns, if nobody else changes the steps. -/
theorem IsIdle.ending (h : IsIdle ticket id history submission outcome)
    (hfresh : IsFresh (before ++ .enter ticket :: late))
    (hsteps : (after before).state.steps.get? id = some history.steps)
    (honly : OnlyChangedBy (Move.tickets before).length before (.enter ticket :: late) id) {ending : Ended}
    (hmem : ending ∈ (after (before ++ .enter ticket :: late)).endings)
    (hplace : ending.place = (Move.tickets before).length) :
    ComesToNothing history submission outcome ending.result := by
  obtain ⟨front, rest, request, next, hsplit, -, hjob, -, hanswered⟩ := ending_answered hfresh hmem
  obtain ⟨place, other, last, result⟩ := ending
  obtain rfl := hplace
  dsimp only at hjob hanswered ⊢
  have hlength : (Move.tickets before).length < (Move.tickets front).length := by
    rw [← length_jobs front]
    exact (List.getElem?_eq_some_iff.1 hjob).1
  obtain ⟨early, rfl, rfl⟩ := advance_after_enter hsplit hlength
  obtain rfl := ticket_entered hjob
  have hearly : early <+: early ++ .advance (Move.tickets before).length :: rest := List.prefix_append _ _
  have hkept : ∀ prior, prior <+: early →
      (after (before ++ .enter other :: prior)).state.steps.get? id = some history.steps :=
    fun prior hprior => h.steps_kept hfresh hsteps honly prior (hprior.trans hearly)
  have hfront : IsFresh (before ++ .enter other :: early) := hfresh.of_front (prefix_of_late hearly)
  generalize (after (before ++ .enter other :: early ++ [.advance (Move.tickets before).length])).state = state
    at hanswered
  cases hanswered with
  | performs hcommit => exact h.perform hfront (hkept early (List.prefix_refl _))
  | refused hrequest =>
    -- it had no change that could be refused
    subst hrequest
    obtain ⟨left, hleft, hnever⟩ := h.hands_nothing_in hfront hkept
    rw [hjob] at hleft
    cases hleft
    exact absurd rfl (hnever _ _ _ _)

end Idle

/-! ## Before the call comes in -/

theorem OnlyChangedBy.of_front {place : Nat} {before part more : List (Move Ticket)} {id : String}
    (h : OnlyChangedBy place before (part ++ more) id) : OnlyChangedBy place before part id := by
  rintro early other late rfl hcommits
  exact h early other (late ++ more) (by simp) hcommits

theorem OnlyChangedBy.of_back {place : Nat} {before part more : List (Move Ticket)} {id : String}
    (h : OnlyChangedBy place before (part ++ more) id) : OnlyChangedBy place (before ++ part) more id := by
  rintro early other late rfl hcommits
  rw [List.append_assoc] at hcommits
  exact h (part ++ early) other late (by simp) hcommits

theorem Commits.lt_length {moves : List (Move Ticket)} {id : String} {place : Nat}
    (h : Commits (after moves) id place) : place < (Move.tickets moves).length := by
  obtain ⟨expected, change, next, hasks, -⟩ := h
  rw [← length_jobs moves]
  by_contra hlarge
  have hnone : (after moves).jobs[place]? = none := List.getElem?_eq_none (Nat.le_of_not_lt hlarge)
  simp only [World.asks?, hnone] at hasks
  cases hasks

/-- nobody changes the steps before the only one who may change them has come in -/
theorem OnlyChangedBy.steps_kept {before early : List (Move Ticket)} (hfresh : IsFresh (before ++ early)) {id : String}
    {steps : List Step} (hsteps : (after before).state.steps.get? id = some steps)
    (honly : OnlyChangedBy (Move.tickets (before ++ early)).length before early id) :
    (after (before ++ early)).state.steps.get? id = some steps := by
  rcases steps_or_commit hfresh hsteps with hsame | ⟨prior, place, late, hsplit, hcommits⟩
  · exact hsame
  · have hplace := honly prior place late hsplit hcommits
    have hcame := hcommits.lt_length
    rw [hplace, hsplit, ← List.append_assoc, Move.tickets_append _ (.advance place :: late),
      List.length_append] at hcame
    omega

/-- what a save that went through leaves behind -/
theorem saved_of_endsNext {before : List (Move Ticket)} (hfresh : IsFresh before) {first : Ended} {id : String}
    {response : Response} {expected : Option String} {receipt : Receipt}
    (hends : (after before).EndsNext Store.answer first)
    (hcall : first.ticket.call = .submit id (.save response) expected)
    (hok : first.result.result = .ok (.receipt receipt)) :
    ∃ history : History, (after (before ++ [.advance first.place])).state.steps.get? id = some history.steps ∧
      history.attemptId = id ∧ history.Marked ∧ history.Idle (.save response) .discarded ∧
      receipt.size = history.size ∧ receipt.last = history.last := by
  have hperform := performed_of_endsNext hfresh hends hok
  have hreport : (first.ticket.perform (after before).state).1.result = .ok (.receipt receipt) := by rw [hperform, hok]
  obtain ⟨view, decision, hview, hdecide, rfl, hstate⟩ := Ticket.perform_submit hcall hreport
  obtain ⟨-, hid, hmarked⟩ := Store.view_steps hview
  have hsubmit := (View.decide_eq_ok hdecide).2
  have heffect := History.submit_effect hsubmit
  have howner : decision.history.attemptId = view.history.attemptId := by cases heffect <;> rfl
  refine ⟨decision.history, ?_, howner.trans hid, heffect.marked hmarked, History.save_idle hsubmit, rfl, rfl⟩
  have hstored : (after (before ++ [.advance first.place])).state = (after before).state.keep id decision.history := by
    rw [hperform] at hstate
    exact hstate
  rw [hstored, Store.keep, Keyed.get?_insert, if_pos rfl]

/-- **Saves never repeat a response.** Let calls come in and be answered in any order, beginning with an empty store
and with identities that are all different.

- Of two real steps of an attempt that follow each other, the later one was written by a call, and if both have the
  same response, this call was none of the saves. What a save wrote differs from the real step before it.
- Let a save go through, let the same save come in after that, both without saying what was seen last, and let nobody
  else's change of the attempt be carried out in between and until the second one has its turns. Then the steps are as
  the first one left them, and the second one discards the response: its receipt tells of as many steps and of the
  same last step as that of the first one, and nothing is counted. It comes to an end once it had three turns. (If the
  attempt has 2^32 real steps by then, their numbers begin again at zero, and the second one fails.) -/
theorem saves_never_repeat {moves : List (Move Ticket)} (hfresh : IsFresh moves) :
    (∀ id front earlier later back, realSteps ((after moves).state.stepsOf id) = front ++ earlier :: later :: back →
        (∃ ending ∈ (after moves).endings, ∃ submission, Ended.Wrote ending id submission later ∧
          (later.response = earlier.response → submission.repeats = true)) ∧
        ∀ ending ∈ (after moves).endings, ∀ response, Ended.Wrote ending id (.save response) later →
          later.response ≠ earlier.response) ∧
      ∀ before first early second late id response receipt,
        moves = before ++ [.advance first.place] ++ early ++ .enter second :: late →
        (after before).EndsNext Store.answer first → first.ticket.call = .submit id (.save response) none →
        first.result.result = .ok (.receipt receipt) → second.call = .submit id (.save response) none →
        OnlyChangedBy (Move.tickets (before ++ [.advance first.place] ++ early)).length
          (before ++ [.advance first.place]) (early ++ .enter second :: late) id →
        (after moves).state.stepsOf id = (after (before ++ [.advance first.place])).state.stepsOf id ∧
          (∀ ending ∈ (after moves).endings,
            ending.place = (Move.tickets (before ++ [.advance first.place] ++ early)).length →
              ending.result = ⟨.ok (.receipt ⟨.discarded, receipt.size, receipt.last⟩), []⟩ ∨
              2 ^ 32 ≤ (realSteps ((after moves).state.stepsOf id)).length ∧
                ∃ flaw, ending.result = ⟨.error (.corrupt id flaw), []⟩) ∧
          (3 ≤ Move.turns (Move.tickets (before ++ [.advance first.place] ++ early)).length late →
            ∃ ending ∈ (after moves).endings,
              ending.place = (Move.tickets (before ++ [.advance first.place] ++ early)).length) := by
  constructor
  · intro id front earlier later back hsplit
    have hchain := after_authored hfresh id
    rw [AllAuthored, hsplit] at hchain
    have hauthored : (after moves).Authored id earlier later :=
      (List.isChain_cons_cons.1 (List.isChain_append.1 hchain).2.1).1
    exact ⟨hauthored, fun ending hmem response => differs_of_save (after_inv hfresh).toSane hauthored hmem⟩
  · rintro before first early second late id response receipt rfl hends hcall hok hsecond honly
    have hentered := hfresh.of_append
    obtain ⟨history, hsteps, hid, hmarked, hidle, hsize, hlast⟩ :=
      saved_of_endsNext hentered.of_append.of_append hends hcall hok
    have hbefore := OnlyChangedBy.steps_kept hentered hsteps honly.of_front
    have hcalm : IsIdle second id history (.save response) .discarded := ⟨hsecond, hid, hmarked, hidle⟩
    have hafter := hcalm.steps_kept hfresh hbefore honly.of_back late (List.prefix_refl _)
    rw [Store.stepsOf_of_get? hafter, Store.stepsOf_of_get? hsteps]
    refine ⟨rfl, fun ending hmem hplace => ?_, ending_of_turns _ second⟩
    rcases hcalm.ending hfresh hbefore honly.of_back hmem hplace with hdone | ⟨hmany, flaw, hfailed⟩
    · rw [hsize, hlast]
      exact .inl hdone
    · rw [hid] at hfailed
      exact .inr ⟨hmany, flaw, hfailed⟩

def saving (stepId : String) : Ticket :=
  ⟨.submit "attempt" (.save (Keyed.empty.insert "answer" "42")) none, ⟨"", stepId, .year2024⟩⟩

/-- a draft is stored, and a save has read the steps and hands its change in next -/
def drafted : List (Move Ticket) :=
  [.enter ⟨.start "question" "user", ⟨"attempt", "first", .year2024⟩⟩, .advance 0,
    .enter ⟨.submit "attempt" (.autosave (Keyed.empty.insert "answer" "4")) none, ⟨"", "draft", .year2024⟩⟩, .advance 1,
    .advance 1, .advance 1, .enter (saving "second"), .advance 2, .advance 2]

/-- the step that the save adds -/
def second : Step := ⟨"second", "attempt", 1, .complete, Keyed.empty.insert "answer" "42", .year2024, false⟩

def saved : Ended :=
  ⟨2, saving "second", some (.commit "attempt" "draft" ⟨.appended, some "draft", some second⟩),
    ⟨.ok (.receipt ⟨.appended, 2, second⟩), [.recorded false]⟩⟩

def waiting : List (Move Ticket) := [.enter ⟨.render "attempt", ⟨"", "", .year2024⟩⟩]

/-- the turns of the same save once more -/
def turns : List (Move Ticket) := [.advance 4, .advance 4, .advance 4]

/-- the save ends, and comes in once more -/
def again : List (Move Ticket) := drafted ++ [.advance 2] ++ waiting ++ .enter (saving "third") :: turns

theorem saves_never_repeat_again :
    IsFresh again ∧ (after drafted).EndsNext Store.answer saved ∧
      (∃ ending ∈ (after again).endings, ending.place = 4 ∧
        ending.result = ⟨.ok (.receipt ⟨.discarded, 2, second⟩), []⟩) ∧
      (after again).state.stepsOf "attempt" = (after (drafted ++ [.advance 2])).state.stepsOf "attempt" ∧
      realSteps ((after again).state.stepsOf "attempt") =
        [⟨"first", "attempt", 0, .todo, Keyed.empty, .year2024, false⟩, second] ∧
      ∃ ending ∈ (after again).endings, ∃ submission, Ended.Wrote ending "attempt" submission second := by
  have hfresh : IsFresh again := by decide
  have hends : (after drafted).EndsNext Store.answer saved := ⟨_, _, rfl, rfl, rfl⟩
  have hreal : realSteps ((after again).state.stepsOf "attempt") =
      [⟨"first", "attempt", 0, .todo, Keyed.empty, .year2024, false⟩, second] := by decide
  obtain ⟨hneighbours, hsaves⟩ := saves_never_repeat hfresh
  obtain ⟨ending, hmem, submission, hwrote, -⟩ := (hneighbours "attempt" [] _ second [] hreal).1
  have honly : OnlyChangedBy 4 (drafted ++ [.advance 2]) (waiting ++ .enter (saving "third") :: turns) "attempt" := by
    intro early other late hsplit _
    have hlisted := List.mem_append_right early (List.mem_cons_self (a := .advance other) (l := late))
    rw [← hsplit] at hlisted
    simpa [waiting, turns] using hlisted
  obtain ⟨hsteps, hdiscards, hturns⟩ :=
    hsaves drafted saved waiting (saving "third") turns "attempt" (Keyed.empty.insert "answer" "42")
      ⟨.appended, 2, second⟩ rfl hends rfl rfl rfl honly
  obtain ⟨last, hlast, hplace⟩ := hturns (by decide)
  have hdone := (hdiscards last hlast hplace).resolve_right fun hmany => absurd hmany.1 (by rw [hreal]; decide)
  exact ⟨hfresh, hends, ⟨last, hlast, hplace, hdone⟩, hsteps, hreal, ending, hmem, submission, hwrote⟩

end Traffic

end AttemptLog
