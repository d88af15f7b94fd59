import AttemptLog.Proofs.History.Closing
import AttemptLog.Proofs.Service.Orderly
import AttemptLog.Proofs.Service.Serial
/-!
A closed attempt stays closed.

Whether an attempt is closed is looked up in steps that were read before a change is handed in, and verdicts are not
held up by it. `after_locked` says that the steps of every attempt are locked all the same. `closed_for_good` follows
the calls that come in once an attempt is closed: learners are turned down and change nothing, whatever verdicts are
added in the meantime, while a verdict is added at the end unless somebody else is faster.
-/
namespace AttemptLog

def Store.IsClosed (store : Store) (id : String) : Prop := ∃ step ∈ store.stepsOf id, step.closes = true

def Store.append (store : Store) (id : String) (step : Step) : Store :=
  { store with steps := store.steps.insert id (store.stepsOf id ++ [step]) }

/-- what can become of a submission to a closed attempt: what it reports, and the store after it -/
inductive Fate (store : Store) (id : String) (submission : Submission) (expected : Option String) :
    Report Answer × Store → Prop where
  /-- learners are told that the attempt is closed -/
  | closed (hlearner : submission.isVerdict = false) :
    Fate store id submission expected (submission.refused (.finished id), store)
  /-- what the client saw last is not the last step any more -/
  | stale {seen : String} (hexpected : expected = some seen) (hstale : seen ≠ Store.lastId (store.stepsOf id)) :
    Fate store id submission expected (submission.refused (.conflict seen (Store.lastId (store.stepsOf id))), store)
  /-- a verdict is a further real step -/
  | recorded {verdict : Verdict} {response : Option Response} {step : Step}
    (hgrade : submission = .grade verdict response) (hreal : step.isDraft = false)
    (hstate : step.state = verdict.state) :
    Fate store id submission expected
      (⟨.ok (.receipt ⟨.appended, (store.stepsOf id).length + 1, step⟩), [.recorded false]⟩, store.append id step)
  /-- the numbers of the steps have begun again at zero -/
  | misnumbered (hmany : 2 ^ 32 ≤ (realSteps (store.stepsOf id)).length) (flaw : Flaw) :
    Fate store id submission expected (submission.refused (.corrupt id flaw), store)

theorem History.draft_eq_none {history : History} (hmarked : history.Marked) (hclosed : history.isClosed = true)
    (hlocked : Locked history.steps) : history.draft = none := by
  obtain ⟨step, hmem, hcloses⟩ := (isClosed_iff hmarked).1 hclosed
  refine Option.eq_none_iff_forall_ne_some.2 fun draft hdraft => ?_
  have hreal := hlocked.noDraft step hmem hcloses draft (by simp [steps, hdraft])
  rw [hmarked.draft draft hdraft] at hreal
  cases hreal

theorem Fate.of_push {store : Store} {id : String} {history : History} (hsteps : history.steps = store.stepsOf id)
    (hdraft : history.draft = none) (verdict : Verdict) (response : Option Response) (expected : Option String)
    (chosen : Response) (stamp : Stamp) :
    Fate store id (.grade verdict response) expected
      (Submission.accepted (.grade verdict response) (history.push chosen verdict.state stamp),
        store.keep id (history.push chosen verdict.state stamp).history) := by
  have hreal : history.realSteps = store.stepsOf id := by
    rw [← hsteps, History.steps, hdraft, Option.toList_none, List.append_nil]
  have hafter : (history.push chosen verdict.state stamp).history.steps =
      store.stepsOf id ++ [history.following chosen verdict.state false stamp] := by
    rw [← hreal]
    simp [History.push, History.steps, History.realSteps]
  have hreceipt : (history.push chosen verdict.state stamp).receipt =
      ⟨.appended, (store.stepsOf id).length + 1, history.following chosen verdict.state false stamp⟩ := by
    rw [Decision.receipt, History.size, hafter, List.length_append, List.length_singleton]
    rfl
  rw [Submission.accepted, hreceipt, Store.keep, hafter]
  exact .recorded rfl rfl rfl

theorem Fate.of_view {store : Store} {id : String} {view : View} (hview : store.view id = .ok view)
    (hclosed : store.IsClosed id) (hlocked : Locked (store.stepsOf id)) {ticket : Ticket} {submission : Submission}
    {expected : Option String} (hcall : ticket.call = .submit id submission expected) :
    Fate store id submission expected (ticket.perform store) := by
  obtain ⟨hsteps, hid, hmarked⟩ := Store.view_steps hview
  have hlast : view.history.last.id = Store.lastId (store.stepsOf id) := by rw [← Store.lastId_steps, hsteps]
  rw [Store.IsClosed, ← hsteps, ← History.isClosed_iff hmarked] at hclosed
  simp only [Ticket.perform, hcall, Store.decide, hview, View.decide, hlast]
  cases hseen : expected.filter fun seen => seen != Store.lastId (store.stepsOf id) with
  | some seen =>
    obtain ⟨hexpected, hne⟩ := Option.filter_eq_some_iff.1 hseen
    exact .stale hexpected (by simpa using hne)
  | none =>
    cases hlearner : submission.isVerdict with
    | false =>
      simp only [History.submit_of_isClosed hclosed hlearner, hid]
      exact .closed hlearner
    | true =>
      cases submission with
      | grade verdict response =>
        rw [← hsteps] at hlocked
        simp only [History.submit_grade]
        exact .of_push hsteps (History.draft_eq_none hmarked hclosed hlocked) verdict response expected _ _
      | _ => cases hlearner

theorem Fate.state_eq {store : Store} {id : String} {submission : Submission} {expected : Option String}
    {result : Report Answer × Store} (h : Fate store id submission expected result)
    (hlearner : submission.isVerdict = false) : result.2 = store := by
  cases h with
  | recorded hgrade hreal hstate =>
    rw [hgrade] at hlearner
    cases hlearner
  | _ => rfl

namespace Traffic

theorem verdictsFollow_kept : KeptByEffects VerdictsFollow where
  start _ _ := List.pairwise_singleton _ _
  effect _ _ _ hmarked heffect hfollow := heffect.verdictsFollow hmarked hfollow

/-- **The steps of every attempt are locked** after every schedule. -/
theorem after_locked {moves : List (Move Ticket)} (hfresh : IsFresh moves) (id : String) :
    Locked ((after moves).state.stepsOf id) := by
  cases hsteps : (after moves).state.steps.get? id with
  | none =>
    have hnil : (after moves).state.stepsOf id = [] := by simp [Store.stepsOf, hsteps]
    rw [hnil]
    exact .nil
  | some steps =>
    rw [Store.stepsOf_of_get? hsteps]
    exact ((after_inv hfresh).kept id steps hsteps).locked (after_keeps verdictsFollow_kept hfresh id steps hsteps)

theorem Grows.isClosed {earlier later : Traffic} (h : Grows earlier later) {id : String}
    (hclosed : earlier.state.IsClosed id) : later.state.IsClosed id := by
  obtain ⟨step, hmem, hcloses⟩ := hclosed
  cases hbefore : earlier.state.steps.get? id with
  | none => simp [Store.stepsOf, hbefore] at hmem
  | some before =>
    obtain ⟨after, hafter, hcontinues⟩ := h.steps id before hbefore
    rw [Store.stepsOf_of_get? hbefore] at hmem
    have hreal : step.isDraft = false := by
      simp only [Step.closes, Bool.and_eq_true, Bool.not_eq_true'] at hcloses
      exact hcloses.1
    refine ⟨step, ?_, hcloses⟩
    rw [Store.stepsOf_of_get? hafter]
    exact (mem_realSteps.1 (hcontinues.real.subset (mem_realSteps.2 ⟨hmem, hreal⟩))).1

/-! ## Calls on a closed attempt -/

/-- what a call on a closed attempt comes to when nobody else is at work -/
theorem fate_of_perform {moves : List (Move Ticket)} (hfresh : IsFresh moves) {id : String}
    (hclosed : (after moves).state.IsClosed id) {ticket : Ticket} {submission : Submission} {expected : Option String}
    (hcall : ticket.call = .submit id submission expected) :
    Fate (after moves).state id submission expected (ticket.perform (after moves).state) := by
  cases hview : (after moves).state.view id with
  | ok view => exact .of_view hview hclosed (after_locked hfresh id) hcall
  | error failure =>
    obtain ⟨step, hmem, -⟩ := hclosed
    obtain ⟨steps, hsteps⟩ : ∃ steps, (after moves).state.steps.get? id = some steps := by
      cases hget : (after moves).state.steps.get? id with
      | none => simp [Store.stepsOf, hget] at hmem
      | some steps => exact ⟨steps, rfl⟩
    obtain ⟨hmany, flaw, rfl⟩ := corrupt_of_view_error hfresh hsteps hview
    rw [← Store.stepsOf_of_get? hsteps] at hmany
    simp only [Ticket.perform, hcall, Store.decide, hview]
    exact .misnumbered hmany flaw

/-- nothing is decided on for a learner who reads a closed attempt -/
theorem not_decided_of_isClosed {store : Store} {id : String} (hclosed : store.IsClosed id) {submission : Submission}
    (hlearner : submission.isVerdict = false) {expected : Option String} {stamp : Stamp} {decision : Decision} :
    store.decide id submission expected stamp ≠ .ok decision := by
  intro hdecide
  obtain ⟨view, hview, hdecide⟩ := Store.decide_eq_ok hdecide
  obtain ⟨hsteps, -, hmarked⟩ := Store.view_steps hview
  rw [Store.IsClosed, ← hsteps, ← History.isClosed_iff hmarked] at hclosed
  have hsubmit := (View.decide_eq_ok hdecide).2
  rw [History.submit_of_isClosed hclosed hlearner] at hsubmit
  cases hsubmit

section Late

variable {before : List (Move Ticket)} {ticket : Ticket} {id : String} {submission : Submission}
    {expected : Option String}

/-- a learner who comes in after an attempt was closed has no change to hand in at any time -/
theorem learner_has_no_change {early : List (Move Ticket)} (hfresh : IsFresh (before ++ .enter ticket :: early))
    (hclosed : (after before).state.IsClosed id) (hcall : ticket.call = .submit id submission expected)
    (hlearner : submission.isVerdict = false) :
    ∃ rest, (after (before ++ .enter ticket :: early)).jobs[(Move.tickets before).length]? = some ⟨ticket, rest⟩ ∧
      ∀ other last change go, rest ≠ .ask (.commit other last change) go := by
  refine has_no_change hfresh hcall fun front hfront decision hdecide => ?_
  obtain ⟨more, rfl⟩ := hfront
  rw [← List.cons_append, ← List.append_assoc] at hfresh
  exact absurd hdecide
    (not_decided_of_isClosed ((after_grows before hfresh.of_append).isClosed hclosed) hlearner)

theorem advance_after_enter {rest front back : List (Move Ticket)}
    (hsplit : before ++ .enter ticket :: rest = front ++ .advance (Move.tickets before).length :: back)
    (hplace : (Move.tickets before).length < (Move.tickets front).length) :
    ∃ early, front = before ++ .enter ticket :: early ∧
      rest = early ++ .advance (Move.tickets before).length :: back := by
  rcases List.append_eq_append_iff.1 hsplit with ⟨between, rfl, hrest⟩ | ⟨between, rfl, -⟩
  · cases between with
    | nil => cases hrest
    | cons move early =>
      cases hrest
      exact ⟨early, rfl, rfl⟩
  · rw [Move.tickets_append, List.length_append] at hplace
    omega

theorem ticket_entered {early : List (Move Ticket)} {other : Ticket} {rest : Program storeInterface (Report Answer)}
    (hjob : (after (before ++ .enter ticket :: early)).jobs[(Move.tickets before).length]? = some ⟨other, rest⟩) :
    other = ticket := by
  have htickets := congrArg (·[(Move.tickets before).length]?) (tickets_after (before ++ .enter ticket :: early))
  simp only [World.tickets, List.getElem?_map, hjob, Option.map_some, Move.tickets_append, Nat.le_refl,
    List.getElem?_append_right, Nat.sub_self] at htickets
  simpa [Move.tickets, Move.ticket?, List.filterMap_cons] using htickets

/-- a learner who comes in after an attempt was closed changes nothing -/
theorem learner_changes_nothing {early : List (Move Ticket)} (hfresh : IsFresh (before ++ .enter ticket :: early))
    (hclosed : (after before).state.IsClosed id) (hcall : ticket.call = .submit id submission expected)
    (hlearner : submission.isVerdict = false) :
    (after (before ++ .enter ticket :: early ++ [.advance (Move.tickets before).length])).state =
      (after (before ++ .enter ticket :: early)).state := by
  have hlater := (after_grows before hfresh).isClosed hclosed
  have hfate := fate_of_perform hfresh hlater hcall
  rw [after_concat]
  rcases World.step_advance_cases Store.answer Ticket.program (after (before ++ .enter ticket :: early))
    (Move.tickets before).length with hsame | ⟨ticket', request, next, hasks⟩
  · rw [Traffic.step, hsame]
  · obtain rfl := ticket_entered hasks
    obtain ⟨left, state, hanswered, hstep⟩ := answered_step (after_inv hfresh) hasks
    rw [hstep]
    cases hanswered with
    | goesOn hphase => rfl
    | performs hcommit => exact hfate.state_eq hlearner
    | refused hrequest hsteps hlast => rfl

end Late

/-- did a call that came in on a closed attempt come to what can become of it, when it was answered for the last time -/
def MeetsFate (before : List (Move Ticket)) (ticket : Ticket) (rest : List (Move Ticket)) (id : String)
    (submission : Submission) (expected : Option String) (ending : Ended) : Prop :=
  ∃ early late, rest = early ++ .advance ending.place :: late ∧
    Fate (after (before ++ .enter ticket :: early)).state id submission expected
      (ending.result, (after (before ++ .enter ticket :: early ++ [.advance ending.place])).state)

/-- a call on a closed attempt meets its fate; only a verdict may be overtaken instead -/
theorem ending_on_closed {before rest : List (Move Ticket)} {ticket : Ticket} {id : String} {submission : Submission}
    {expected : Option String} (hfresh : IsFresh (before ++ .enter ticket :: rest))
    (hclosed : (after before).state.IsClosed id) (hcall : ticket.call = .submit id submission expected) {ending : Ended}
    (hmem : ending ∈ (after (before ++ .enter ticket :: rest)).endings)
    (hplace : ending.place = (Move.tickets before).length) :
    MeetsFate before ticket rest id submission expected ending ∨
      submission.isVerdict = true ∧ Overtaken (before ++ .enter ticket :: rest) ending := by
  have hovertaken := overtaken_of_wasRefused hfresh hmem
  obtain ⟨front, late, request, next, hsplit, hlast, hjob, -, hanswered⟩ := ending_answered hfresh hmem
  obtain ⟨place, other, last, result⟩ := ending
  cases hplace
  dsimp only at hjob hanswered
  obtain ⟨hlength, -⟩ := List.getElem?_eq_some_iff.1 hjob
  rw [length_jobs] at hlength
  obtain ⟨early, rfl, rfl⟩ := advance_after_enter hsplit hlength
  obtain rfl := ticket_entered hjob
  rw [← List.cons_append, ← List.append_assoc] at hfresh
  have hearly : IsFresh (before ++ .enter other :: early) := hfresh.of_append
  have hfate := fate_of_perform hearly ((after_grows before hearly).isClosed hclosed) hcall
  generalize hstate : (after (before ++ .enter other :: early ++ [.advance (Move.tickets before).length])).state = state
    at hanswered
  cases hanswered with
  | performs hcommit =>
    refine .inl ⟨early, late, rfl, ?_⟩
    rw [hstate]
    exact hfate
  | refused hrequest hsteps hne =>
    subst hrequest
    cases hlearner : submission.isVerdict with
    | true =>
      cases hlast
      exact .inr ⟨rfl, hovertaken rfl⟩
    | false =>
      obtain ⟨rest, hrest, hnever⟩ := learner_has_no_change hearly hclosed hcall hlearner
      rw [hjob] at hrest
      cases hrest
      exact absurd rfl (hnever _ _ _ _)

theorem ending_of_turns (before : List (Move Ticket)) (ticket : Ticket) {rest : List (Move Ticket)}
    (hturns : 3 ≤ Move.turns (Move.tickets before).length rest) :
    ∃ ending ∈ (after (before ++ .enter ticket :: rest)).endings, ending.place = (Move.tickets before).length := by
  have hrun : after (before ++ .enter ticket :: rest) =
      (after (before ++ [.enter ticket])).run Store.answer Ticket.program rest := by
    simp [after, World.run]
  have hsettled : (after (before ++ .enter ticket :: rest)).Settled := World.run_settled _ _
  rw [hrun] at hsettled ⊢
  exact hsettled.ending_of_turns (jobs_entered before ticket) ticket.program_endsWithin hturns

/-- **A closed attempt stays closed.** Let calls come in and be answered in any order, beginning with an empty store
and with identities that are all different.

- The steps of every attempt are locked: after the first real step that is finished or graded there are only verdicts,
  there is no draft then, at most one step is finished, and none after one that is graded.
- A submission that comes in when an attempt is closed comes to an end once it had three turns. A learner is told that
  the attempt is closed, or that the step that was seen last is not the last one any more, and none of the turns
  changes the store. A verdict is added at the end, unless its step that was seen last is not the last one any more,
  or another change of the attempt went through since the steps were read. (If the attempt has 2^32 real steps, their
  numbers begin again at zero, and all calls on it fail.)
- The attempt is still closed after that. -/
theorem closed_for_good {moves : List (Move Ticket)} (hfresh : IsFresh moves) :
    (∀ id, Locked ((after moves).state.stepsOf id)) ∧
      ∀ before ticket rest id submission expected, moves = before ++ .enter ticket :: rest →
        (after before).state.IsClosed id → ticket.call = .submit id submission expected →
        (3 ≤ Move.turns (Move.tickets before).length rest →
            ∃ ending ∈ (after moves).endings, ending.place = (Move.tickets before).length) ∧
          (∀ ending ∈ (after moves).endings, ending.place = (Move.tickets before).length →
            MeetsFate before ticket rest id submission expected ending ∨
              submission.isVerdict = true ∧ Overtaken moves ending) ∧
          (submission.isVerdict = false → ∀ early late, rest = early ++ .advance (Move.tickets before).length :: late →
            (after (before ++ .enter ticket :: early ++ [.advance (Move.tickets before).length])).state =
              (after (before ++ .enter ticket :: early)).state) ∧
          (after moves).state.IsClosed id := by
  refine ⟨after_locked hfresh, ?_⟩
  rintro before ticket rest id submission expected rfl hclosed hcall
  refine ⟨ending_of_turns before ticket, fun ending hmem hplace => ending_on_closed hfresh hclosed hcall hmem hplace,
    ?_, (after_grows before hfresh).isClosed hclosed⟩
  rintro hlearner early late rfl
  rw [← List.cons_append, ← List.append_assoc] at hfresh
  exact learner_changes_nothing hfresh.of_append hclosed hcall hlearner

def finished : List (Move Ticket) :=
  [.enter ⟨.start "question" "user", ⟨"attempt", "first", .year2024⟩⟩, .advance 0,
    .enter ⟨.submit "attempt" (.finish (Keyed.empty.insert "answer" "42")) none, ⟨"", "second", .year2024⟩⟩,
    .advance 1, .advance 1, .advance 1]

def latecomer : Ticket := ⟨.submit "attempt" (.autosave Keyed.empty) none, ⟨"", "third", .year2024⟩⟩

/-- a verdict that does not accept the response is added while the learner is at work -/
def judged : List (Move Ticket) :=
  [.advance 2, .enter ⟨.submit "attempt" (.grade .invalid none) (some "second"), ⟨"", "fourth", .year2024⟩⟩,
    .advance 3, .advance 3, .advance 3, .advance 2, .advance 2]

theorem closed_for_good_judged :
    IsFresh (finished ++ .enter latecomer :: judged) ∧ (after finished).state.IsClosed "attempt" ∧
      (∃ ending ∈ (after (finished ++ .enter latecomer :: judged)).endings, ending.place = 2 ∧
        MeetsFate finished latecomer judged "attempt" (.autosave Keyed.empty) none ending) ∧
      ((after (finished ++ .enter latecomer :: judged)).state.stepsOf "attempt").map (·.id) =
        ["first", "second", "fourth"] := by
  have hfresh : IsFresh (finished ++ .enter latecomer :: judged) := by decide
  have hclosed : (after finished).state.IsClosed "attempt" := by
    unfold Store.IsClosed
    decide
  obtain ⟨hends, hfates, -, -⟩ := (closed_for_good hfresh).2 finished latecomer judged "attempt" _ none rfl hclosed rfl
  obtain ⟨ending, hmem, hplace⟩ := hends (by decide)
  have hfate := (hfates ending hmem hplace).resolve_right (by simp [Submission.isVerdict])
  exact ⟨hfresh, hclosed, ⟨ending, hmem, hplace, hfate⟩, by decide⟩

end Traffic

end AttemptLog
