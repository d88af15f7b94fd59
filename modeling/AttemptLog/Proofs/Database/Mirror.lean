import AttemptLog.Proofs.Database.Isolation
import AttemptLog.Proofs.Database.Served
/-!
A database that does what a store in memory does.

`Mirrors` says that tables hold what a store holds. While it does, a database answers each query that a call asks as
the store does (`Mirrors.find_runs`, `Mirrors.load_runs`, `Mirrors.create_runs`, `Mirrors.commit_runs`), although the
two look for the last step and for what stands in the way of a change in different ways. So calls that come one after
another get the same answers from both, and leave the same behind (`interchangeable`).
-/
namespace AttemptLog

namespace Database

/-- do tables hold what a store holds -/
structure Mirrors (store : Store) (tables : Tables) : Prop where
  attempts : ∃ all : List Attempt, tables.documents attemptTable = all.map Attempt.toJson ∧
    ∀ id, all.filter (fun attempt => decide (attempt.id = id)) = (store.attempts.get? id).toList
  steps : tables.Holds store.stepsOf

/-! ## Queries -/

theorem documents_commit (tables : Tables) (id expected : String) (change : Change) :
    ((writesOf (.commit id expected change)).foldl Tables.after tables).documents attemptTable =
      tables.documents attemptTable := by
  have hother : attemptTable ≠ stepTable := by simp [attemptTable, stepTable]
  cases hremoved : change.removed <;> cases happended : change.appended <;>
    simp [writesOf, hremoved, happended, documents_delete_other _ _ hother, documents_insert _ _ hother]

namespace Mirrors

variable {takes : Document → Prop} {store : Store} {tables : Tables}

theorem find_runs (h : Mirrors store tables) (id : String) :
    (answer (.find id)).Runs (Executes takes) (.resting tables) (.ok (store.attempts.get? id)) (.resting tables) := by
  obtain ⟨all, hall, hattempts⟩ := h.attempts
  have hfits : Filter.fits [("_id", id)] ∘ Attempt.toJson = fun attempt => decide (attempt.id = id) :=
    funext fun attempt => fits_attempt id attempt
  have hfound : found (tables.documents attemptTable) [("_id", id)] none (some 1) =
      ((store.attempts.get? id).toList.map Attempt.toJson).take 1 := by
    simp only [found]
    rw [hall, List.filter_map, hfits, hattempts]
  refine Executes.tracked_runs (.bind (Executes.outside trivial (congrArg Except.ok hfound)) ?_)
  cases store.attempts.get? id with
  | none => exact .done _ _
  | some attempt =>
    have hread : readFirst .findAttempt attempt? [attempt.toJson] = .ok (some attempt) := by
      simp only [readFirst, attempt?_toJson]
    simp only [Option.toList_some, List.map_cons, List.map_nil, List.take_succ_cons, List.take_nil, hread]
    exact .done _ _

theorem load_runs (h : Mirrors store tables) {id : String} (hnumbered : Numbered (store.stepsOf id)) :
    (answer (.load id)).Runs (Executes takes) (.resting tables) (.ok (store.stepsOf id)) (.resting tables) := by
  refine Executes.tracked_runs (.bind (Executes.outside trivial rfl) ?_)
  have hread := h.steps.steps?_eq hnumbered
  simp only [Tables.steps?] at hread
  simp only [readAll, hread]
  exact .done _ _

/-- an attempt that the store does not know collides with none -/
theorem free_attempt (h : Mirrors store tables) {attempt : Attempt} (hnew : store.attempts.get? attempt.id = none) :
    (tables.documents attemptTable).any (collide attempt.toJson) = false := by
  obtain ⟨all, hall, hattempts⟩ := h.attempts
  rw [hall, List.any_eq_false]
  rintro document hdocument
  obtain ⟨other, hmem, rfl⟩ := List.mem_map.1 hdocument
  rw [collide_attempt, decide_eq_true_eq]
  intro hsame
  have hfound : other ∈ all.filter fun stored => decide (stored.id = attempt.id) :=
    List.mem_filter.2 ⟨hmem, decide_eq_true hsame.symm⟩
  rw [hattempts, hnew] at hfound
  exact absurd hfound List.not_mem_nil

theorem create_runs (h : Mirrors store tables) {attempt : Attempt} {first : Step}
    (hnew : store.attempts.get? attempt.id = none) (howner : first.attemptId = attempt.id)
    (hnone : store.stepsOf attempt.id = [])
    (hid : ∀ id, ∀ other ∈ store.stepsOf id, other.id ≠ first.id) (hattempt : takes attempt.toJson)
    (hfirst : takes first.toJson) :
    ∃ next, (answer (.create attempt first)).Runs (Executes takes) (.resting tables) (.ok ()) (.resting next) ∧
      Mirrors ⟨store.attempts.insert attempt.id attempt, store.steps.insert attempt.id [first]⟩ next := by
  have hother : stepTable ≠ attemptTable := by simp [attemptTable, stepTable]
  have hnumber : ∀ other ∈ store.stepsOf first.attemptId, other.number ≠ first.number := by
    rw [howner, hnone]
    exact fun other hmem => absurd hmem List.not_mem_nil
  have hfree := h.free_attempt hnew
  have hmade := h.steps.insert_other attempt.toJson hother
  have hfreeStep := hmade.free hid hnumber
  have hbody : (createBody attempt first).run.Runs (Executes takes) (.resting tables) (.ok ())
      (.within tables ((tables.after (.insert attemptTable attempt.toJson)).after
        (.insert stepTable first.toJson))) := by
    exact .bind (Executes.first rfl hattempt (insert_ok hfree)) (Executes.inside rfl hfirst (insert_ok hfreeStep))
  obtain ⟨all, hall, hattempts⟩ := h.attempts
  refine ⟨_, Executes.tracked_runs (Executes.transact_commits hbody), ⟨all ++ [attempt], ?_, fun id => ?_⟩, ?_⟩
  · rw [documents_insert _ _ hother.symm, documents_insert_self hfree, hall, List.map_append, List.map_singleton]
  · rw [List.filter_append, hattempts, Keyed.get?_insert]
    by_cases hsame : id = attempt.id
    · simp [hsame, hnew]
    · simp [hsame, Ne.symm hsame]
  · rw [Store.stepsOf_insert]
    have hinserted := hmade.insert first hid hnumber
    rw [howner, hnone, List.nil_append] at hinserted
    exact hinserted

theorem commit_runs (h : Mirrors store tables) {history : History} {stamp : Stamp} {decision : Decision}
    (heffect : History.Effect history stamp decision) (hsteps : store.stepsOf history.attemptId = history.steps)
    (hdistinct : (history.steps.map Step.id).Nodup) (hnumbered : Numbered history.steps)
    (hroom : history.realSteps.length < 2 ^ 32) (hnew : ∀ id, ∀ step ∈ store.stepsOf id, step.id ≠ stamp.id)
    (hchange : decision.change.isEmpty = false)
    (htakes : ∀ step, decision.change.appended = some step → takes step.toJson) :
    ∃ next, (answer (.commit history.attemptId history.last.id decision.change)).Runs (Executes takes) (.resting tables)
      (.ok ()) (.resting next) ∧ Mirrors (store.keep history.attemptId decision.history) next := by
  have hlast : tables.lastStep? history.attemptId = some history.last := by
    rw [h.steps.lastStep?_eq (hsteps ▸ hnumbered), hsteps, History.getLast?_steps]
  have hbody : (changeBody history.attemptId history.last.id decision.change).run.Runs (Executes takes)
      (.resting tables) (.ok ()) (.within tables
        ((writesOf (.commit history.attemptId history.last.id decision.change)).foldl Tables.after tables)) := by
    rcases heffect.steps_eq with ⟨hremoved, happended, -⟩ | ⟨hremoved, -⟩
    · simp [Change.isEmpty, hremoved, happended] at hchange
    · refine Executes.changeBody_runs hlast (fun removed hremove => ?_) fun step happended =>
        ⟨htakes step happended, ?_⟩
      · rw [hremoved] at hremove
        obtain ⟨draft, hdraft, rfl⟩ := Option.map_eq_some_iff.1 hremove
        have hstored : draft ∈ store.stepsOf history.attemptId := by simp [hsteps, History.steps, hdraft]
        exact delete_ok (h.steps.find?_eq (hsteps ▸ hdistinct) hstored)
      · obtain ⟨hid, hnumber⟩ := appended_apart heffect happended hsteps hnumbered hroom hnew
        rw [hremoved]
        exact (h.steps.withoutDraft hsteps hdistinct).free hid hnumber
  refine ⟨(writesOf (.commit history.attemptId history.last.id decision.change)).foldl Tables.after tables, ?_, ?_⟩
  · rw [answer, if_neg (by simp [hchange])]
    exact Executes.tracked_runs (Executes.transact_commits hbody)
  · constructor
    case attempts =>
      rw [documents_commit]
      exact h.attempts
    case steps =>
      rw [Store.keep, Store.stepsOf_insert]
      exact h.steps.change heffect hsteps hdistinct hnumbered hroom hnew _

end Mirrors

/-! ## Calls -/

section Calls

variable {takes : Document → Prop} {fits : Response → Prop}

/-- can attempts be sent to a server, and steps if their responses can -/
structure Encodes (takes : Document → Prop) (fits : Response → Prop) : Prop where
  attempt : ∀ attempt : Attempt, takes attempt.toJson
  step : ∀ step : Step, fits step.response → takes step.toJson
  blank : fits Keyed.empty

/-- the responses that are stored after a call were stored before, or handed in by it, or the empty one -/
theorem perform_fits {ticket : Ticket} {store : Store} (hblank : fits Keyed.empty) (hoffers : ticket.Offers fits)
    (hfits : ∀ id, ∀ step ∈ store.stepsOf id, fits step.response) :
    ∀ id, ∀ step ∈ (ticket.perform store).2.stepsOf id, fits step.response := by
  rcases ticket.perform_writes store with hsame | ⟨id, attempt, steps, hwrites, hstate⟩
  · rwa [hsame]
  · rw [hstate, Store.stepsOf_insert]
    refine (Function.forall_update_iff _ fun _ (steps : List Step) => ∀ step ∈ steps, fits step.response).2
      ⟨?_, fun other _ => hfits other⟩
    cases hwrites with
    | start hnew =>
      intro step hstep
      obtain rfl := List.mem_singleton.1 hstep
      exact hblank
    | @submit _ submission expected issue view decision hview hdecide =>
      have hsubmit := (View.decide_eq_ok hdecide).2
      have hold : ∀ step ∈ view.history.steps, fits step.response := by
        rw [(Store.view_steps hview).1]
        exact hfits id
      intro step hstep
      rcases (History.submit_effect hsubmit).steps_eq with ⟨-, -, hhistory⟩ | ⟨-, hsteps⟩
      · rw [hhistory] at hstep
        exact hold step hstep
      · rw [hsteps, List.mem_append, Option.mem_toList] at hstep
        rcases hstep with hreal | happended
        · exact hold step (List.mem_append_left _ hreal)
        · rcases History.submit_response hsubmit happended with hresponse | hresponse
          · exact hoffers _ _ _ rfl _ hresponse
          · rw [hresponse]
            exact hold _ (by simp [History.steps, History.realSteps])

/-- a store that calls have worked on, mirrored by tables, with responses that can be sent -/
structure Mirrored (fits : Response → Prop) (traffic : Traffic) (tables : Tables) : Prop where
  sane : traffic.Sane
  numbered : traffic.state.AllNumbered
  room : traffic.state.HasRoom
  mirrors : Mirrors traffic.state tables
  fitting : ∀ id, ∀ step ∈ traffic.state.stepsOf id, fits step.response

namespace Mirrored

variable {traffic : Traffic} {tables : Tables} {ticket : Ticket}

theorem numbered_stepsOf (h : Mirrored fits traffic tables) (id : String) : Numbered (traffic.state.stepsOf id) := by
  cases hget : traffic.state.steps.get? id with
  | some steps =>
    rw [Store.stepsOf_of_get? hget]
    exact h.numbered id steps hget
  | none =>
    intro place hplace
    simp [Store.stepsOf, hget] at hplace

theorem id_ne (h : Mirrored fits traffic tables) {id : String} (hid : ¬ traffic.Spent id) (other : String) :
    ∀ step ∈ traffic.state.stepsOf other, step.id ≠ id := by
  rintro step hstep rfl
  exact hid (h.sane.spent other _ (Store.get?_of_stepsOf rfl (List.ne_nil_of_mem hstep)) step hstep)

theorem start_runs (hencodes : Encodes takes fits) (h : Mirrored fits traffic tables) {questionId userId : String}
    (hcall : ticket.call = .start questionId userId)
    (hprogram : ticket.program = .ask (.create (ticket.issue.newView questionId userId).attempt
      (ticket.issue.newView questionId userId).history.current) (afterCreate (ticket.issue.newView questionId userId)))
    (hnew : ∀ id ∈ ticket.ids, ¬ traffic.Spent id) :
    ∃ next, (ticket.program.via answer).Runs (Executes takes) (.resting tables) (ticket.perform traffic.state).1
      (.resting next) ∧ Mirrors (ticket.perform traffic.state).2 next := by
  let view := ticket.issue.newView questionId userId
  have hattempt : ¬ traffic.Spent ticket.issue.attemptId := hnew _ (by simp [Ticket.ids, hcall])
  have hstep : ¬ traffic.Spent ticket.issue.stepId := hnew _ (by simp [Ticket.ids, hcall])
  have hunknown : traffic.state.attempts.get? view.attempt.id = none := by
    cases hget : traffic.state.attempts.get? view.attempt.id with
    | none => rfl
    | some attempt => exact absurd (h.sane.named _ _ hget).2 hattempt
  have hnone : traffic.state.stepsOf view.attempt.id = [] := by
    rw [Store.stepsOf, h.sane.steps_eq_none hunknown]
    rfl
  obtain ⟨next, hcreate, hmirrors⟩ := @Mirrors.create_runs takes _ _ h.mirrors view.attempt view.history.current
    hunknown rfl hnone (h.id_ne hstep) (hencodes.attempt _) (hencodes.step _ hencodes.blank)
  have hcontains : traffic.state.attempts.contains ticket.issue.attemptId = false :=
    Keyed.contains_eq_false_iff.2 hunknown
  refine ⟨next, ?_, ?_⟩
  · rw [hprogram]
    simp only [Ticket.perform, hcall, hcontains]
    exact .bind hcreate (.done _ _)
  · rw [Ticket.perform_start hcall hunknown]
    exact hmirrors

theorem decision_runs (hencodes : Encodes takes fits) (h : Mirrored fits traffic tables) {id : String}
    {submission : Submission} {expected : Option String} {stamp : Stamp} {view : View} {decision : Decision}
    (hview : traffic.state.view id = .ok view) (hdecide : view.decide submission expected stamp = .ok decision)
    (hchange : decision.change.isEmpty = false) (hnew : ¬ traffic.Spent stamp.id)
    (hoffers : ∀ response, submission.response? = some response → fits response) :
    ∃ next, (answer (.commit id view.history.last.id decision.change)).Runs (Executes takes) (.resting tables) (.ok ())
      (.resting next) ∧ Mirrors (traffic.state.keep id decision.history) next := by
  obtain ⟨hsteps, rfl, hmarked⟩ := Store.view_steps hview
  have hsubmit := (View.decide_eq_ok hdecide).2
  have hstored := Store.get?_of_view hview
  have hroom : view.history.realSteps.length < 2 ^ 32 := by
    rw [← hmarked.realSteps_steps]
    exact h.room _ _ hstored
  refine h.mirrors.commit_runs (History.submit_effect hsubmit) hsteps.symm (h.sane.kept _ _ hstored).distinct
    (h.numbered _ _ hstored) hroom (h.id_ne hnew) hchange fun step happended => hencodes.step step ?_
  rcases History.submit_response hsubmit happended with hresponse | hresponse
  · exact hoffers _ hresponse
  · rw [hresponse]
    exact h.fitting view.history.attemptId _ (by simp [← hsteps, History.steps, History.realSteps])

/-- once an attempt was read, what is left of a call does the same to both -/
theorem conclude_runs (hencodes : Encodes takes fits) (h : Mirrored fits traffic tables) {id : String}
    (htarget : ticket.call.target? = some id) (hnew : ∀ id ∈ ticket.ids, ¬ traffic.Spent id)
    (hoffers : ticket.Offers fits) :
    ∃ next, ((ticket.call.conclude ticket.issue (traffic.state.view id)).via answer).Runs (Executes takes)
        (.resting tables) (ticket.perform traffic.state).1 (.resting next) ∧
      Mirrors (ticket.perform traffic.state).2 next := by
  rw [← Traffic.conclude_run h.sane htarget]
  obtain ⟨call, issue⟩ := ticket
  cases call with
  | start questionId userId => cases htarget
  | submit other submission expected =>
    cases htarget
    cases hview : traffic.state.view id with
    | error failure => exact ⟨tables, .done _ _, h.mirrors⟩
    | ok view =>
      cases hdecide : view.decide submission expected issue.stamp with
      | error failure =>
        simp only [Call.conclude, hdecide]
        exact ⟨tables, .done _ _, h.mirrors⟩
      | ok decision =>
        cases hempty : decision.change.isEmpty with
        | true =>
          simp only [Call.conclude, hdecide, hempty, ite_true]
          exact ⟨tables, .done _ _, h.mirrors⟩
        | false =>
          have hstep : ¬ traffic.Spent issue.stamp.id := hnew _ (by simp [Ticket.ids, Issue.stamp])
          obtain ⟨next, hcommit, hmirrors⟩ := h.decision_runs hencodes hview hdecide hempty hstep
            fun response => hoffers _ _ _ rfl response
          simp only [Call.conclude, hdecide, hempty, Bool.false_eq_true, ite_false, Program.run,
            Traffic.answer_commit h.sane hview hdecide]
          exact ⟨next, .bind hcommit (.done _ _), hmirrors⟩
  | _ =>
    cases htarget
    exact ⟨tables, .done _ _, h.mirrors⟩

/-- **A call gets from both what it comes to alone**, and leaves in both what it leaves alone. -/
theorem call_runs (hencodes : Encodes takes fits) (h : Mirrored fits traffic tables)
    (hnew : ∀ id ∈ ticket.ids, ¬ traffic.Spent id) (hoffers : ticket.Offers fits) :
    ∃ next, (ticket.program.via answer).Runs (Executes takes) (.resting tables) (ticket.perform traffic.state).1
      (.resting next) ∧ Mirrors (ticket.perform traffic.state).2 next := by
  rcases ticket.program_cases with ⟨questionId, userId, hcall, hprogram⟩ | ⟨id, htarget, hprogram⟩
  · exact h.start_runs hencodes hcall hprogram hnew
  · obtain ⟨next, hruns, hmirrors⟩ := h.conclude_runs hencodes htarget hnew hoffers
    refine ⟨next, ?_, hmirrors⟩
    rw [hprogram]
    refine .bind (h.mirrors.find_runs id) ?_
    cases hattempt : traffic.state.attempts.get? id with
    | none =>
      have hview : traffic.state.view id = .error (.notFound id) := by simp [Store.view, hattempt]
      rw [hview] at hruns
      exact hruns
    | some attempt =>
      refine .bind (h.mirrors.load_runs (h.numbered_stepsOf id)) ?_
      rw [Store.view_of_get? hattempt] at hruns
      exact hruns

end Mirrored

end Calls

end Database

/-! ## Calls one after another -/

/-- calls one after another, with all their reports -/
def Ticket.session : List Ticket → Program storeInterface (List (Report Answer))
  | [] => .done []
  | ticket :: rest => ticket.program.bind fun report => (session rest).bind fun reports => .done (report :: reports)

namespace Traffic

variable {before rest : List Ticket}

theorem isFresh_before (hfresh : ((before ++ rest).flatMap Ticket.ids).Nodup) : IsFresh (inTurn before) := by
  rw [List.flatMap_append] at hfresh
  exact isFresh_inTurn.2 hfresh.of_append_left

theorem run_session (hfresh : ((before ++ rest).flatMap Ticket.ids).Nodup) :
    ((Ticket.session rest).run Store.answer (after (inTurn before)).state).2 =
      (after (inTurn (before ++ rest))).state := by
  induction rest generalizing before with
  | nil => simp [Ticket.session, Program.run]
  | cons ticket rest ih =>
    have hsane := (after_inv (isFresh_before hfresh)).toSane
    rw [List.append_cons] at hfresh ⊢
    have hstate := state_inTurn_concat (isFresh_inTurn.1 (isFresh_before hfresh))
    rw [Ticket.session, Program.run_bind, run_eq_perform hsane, ← hstate, Program.run_bind, ← ih hfresh]
    rfl

end Traffic

namespace Database

variable {takes : Document → Prop} {fits : Response → Prop}

theorem Mirrored.turn_runs (hencodes : Encodes takes fits) {before : List Ticket} {ticket : Ticket} {tables : Tables}
    (hfresh : Traffic.IsFresh (Traffic.inTurn (before ++ [ticket])))
    (hroom : (Traffic.after (Traffic.inTurn (before ++ [ticket]))).state.HasRoom)
    (h : Mirrored fits (Traffic.after (Traffic.inTurn before)) tables) (hoffers : ticket.Offers fits) :
    ∃ next, (ticket.program.via answer).Runs (Executes takes) (.resting tables)
      (ticket.perform (Traffic.after (Traffic.inTurn before)).state).1 (.resting next) ∧
        Mirrored fits (Traffic.after (Traffic.inTurn (before ++ [ticket]))) next := by
  have hnew : ∀ id ∈ ticket.ids, ¬ (Traffic.after (Traffic.inTurn before)).Spent id := fun id hid =>
    Traffic.not_spent_inTurn (Traffic.isFresh_inTurn.1 hfresh) hid
  have hstate := Traffic.state_inTurn_concat (Traffic.isFresh_inTurn.1 hfresh)
  obtain ⟨next, hruns, hmirrors⟩ := h.call_runs hencodes hnew hoffers
  refine ⟨next, hruns, ?_⟩
  exact
    { sane := (Traffic.after_inv hfresh).toSane
      numbered := Traffic.after_numbered hfresh hroom
      room := hroom
      mirrors := by
        rw [hstate]
        exact hmirrors
      fitting := by
        rw [hstate]
        exact perform_fits hencodes.blank hoffers h.fitting }

/-- **A session gets from both the same reports** and leaves the same in both. -/
theorem Mirrored.session_runs (hencodes : Encodes takes fits) {before rest : List Ticket} {tables : Tables}
    (hfresh : ((before ++ rest).flatMap Ticket.ids).Nodup)
    (hroom : (Traffic.after (Traffic.inTurn (before ++ rest))).state.HasRoom)
    (h : Mirrored fits (Traffic.after (Traffic.inTurn before)) tables) (hoffers : ∀ ticket ∈ rest, ticket.Offers fits) :
    ∃ next, ((Ticket.session rest).via answer).Runs (Executes takes) (.resting tables)
      ((Ticket.session rest).run Store.answer (Traffic.after (Traffic.inTurn before)).state).1 (.resting next) ∧
        Mirrored fits (Traffic.after (Traffic.inTurn (before ++ rest))) next := by
  induction rest generalizing before tables with
  | nil =>
    rw [List.append_nil]
    exact ⟨tables, .done _ _, h⟩
  | cons ticket rest ih =>
    rw [List.append_cons] at hfresh hroom ⊢
    have hthis := Traffic.isFresh_before hfresh
    have hstate := Traffic.state_inTurn_concat (Traffic.isFresh_inTurn.1 hthis)
    have hroomThis : (Traffic.after (Traffic.inTurn (before ++ [ticket]))).state.HasRoom := by
      obtain ⟨more, hmore⟩ := Traffic.inTurn_prefix (List.prefix_append (before ++ [ticket]) rest)
      have hfreshAll := Traffic.isFresh_inTurn.2 hfresh
      rw [← hmore] at hfreshAll hroom
      exact (Traffic.after_grows _ hfreshAll).hasRoom hroom
    obtain ⟨between, hcall, hbetween⟩ := h.turn_runs hencodes hthis hroomThis (hoffers ticket List.mem_cons_self)
    obtain ⟨next, hrest, hnext⟩ := ih hfresh hroom hbetween fun other hother =>
      hoffers other (List.mem_cons_of_mem _ hother)
    refine ⟨next, ?_, hnext⟩
    rw [Ticket.session, Program.run_bind, Traffic.run_eq_perform h.sane, ← hstate, Program.run_bind, Program.via_bind]
    refine .bind hcall ?_
    rw [Program.via_bind]
    exact .bind hrest (.done _ _)

theorem empty_mirrored (fits : Response → Prop) : Mirrored fits (Traffic.after (Traffic.inTurn [])) Keyed.empty where
  sane := (@Traffic.after_inv [] List.nodup_nil).toSane
  numbered _ _ hget := nomatch hget
  room _ _ hget := nomatch hget
  mirrors := ⟨⟨[], rfl, fun _ => rfl⟩, [], rfl, fun _ => rfl⟩
  fitting _ _ hstep := nomatch hstep

theorem encodes_all : Encodes (fun _ => True) (fun _ => True) := ⟨fun _ => trivial, fun _ _ => trivial, trivial⟩

/-- can a response be sent: no name in it holds the mark of its end -/
def CanBeSent (response : Response) : Prop := isSendable (Response.toJson response) = true

theorem encodes_sendable : Encodes (fun document => isSendable document = true) CanBeSent where
  attempt attempt := rfl
  step step hresponse := by
    have hdata : isSendable (Response.toJson step.response) = true := hresponse
    simp only [Step.toJson, isSendable, haveSendable, hdata]
    rfl
  blank := rfl

/-- **A store in memory and a database are interchangeable.** Let calls come one after another, let all identities
that are issued to them be different, and let no attempt have 2^32 real steps. Both begin empty.

- A server that executes every command gives each call the report that the store in memory gives, and in the end it
  holds what that store holds.
- So does a deployment that nobody disturbs, if what is handed in can be sent to it. -/
theorem interchangeable {tickets : List Ticket} (hfresh : (tickets.flatMap Ticket.ids).Nodup)
    (hroom : ((Ticket.session tickets).run Store.answer Store.empty).2.HasRoom) :
    (∃ tables, ((Ticket.session tickets).via answer).run Server.obey (.resting Keyed.empty) =
        (((Ticket.session tickets).run Store.answer Store.empty).1, .resting tables) ∧
      Mirrors ((Ticket.session tickets).run Store.answer Store.empty).2 tables) ∧
    ∀ deployment : Deployment, deployment.Holds (.resting Keyed.empty) → (∀ ticket ∈ tickets, ticket.Offers CanBeSent) →
      ∃ tables, (((Ticket.session tickets).via answer).run Deployment.answer deployment).1 =
          ((Ticket.session tickets).run Store.answer Store.empty).1 ∧
        (((Ticket.session tickets).via answer).run Deployment.answer deployment).2.Holds (.resting tables) ∧
        Mirrors ((Ticket.session tickets).run Store.answer Store.empty).2 tables := by
  have hstate : ((Ticket.session tickets).run Store.answer Store.empty).2 =
      (Traffic.after (Traffic.inTurn tickets)).state :=
    @Traffic.run_session [] tickets hfresh
  rw [hstate] at hroom ⊢
  constructor
  · obtain ⟨tables, hruns, hmirrored⟩ := @Mirrored.session_runs _ _ encodes_all [] tickets _ hfresh hroom
      (empty_mirrored _) fun ticket hticket id submission expected hcall response hresponse => trivial
    obtain ⟨hreports, hserver⟩ := hruns.run_of_follows (obey_follows _) rfl
    exact ⟨tables, Prod.ext hreports hserver, hmirrored.mirrors⟩
  · intro deployment hdeployment hoffers
    obtain ⟨tables, hruns, hmirrored⟩ := @Mirrored.session_runs _ _ encodes_sendable [] tickets _ hfresh hroom
      (empty_mirrored _) hoffers
    obtain ⟨hreports, hholds⟩ := hruns.run_of_follows answer_follows hdeployment
    exact ⟨tables, hreports, hholds, hmirrored.mirrors⟩

/-- an attempt is begun, answered provisionally and saved, and then the client looks for one that is not there -/
def sitting : List Ticket :=
  let response : Response := Keyed.ofList [("answer", "4")]
  [⟨.start "question" "user", ⟨"attempt", "first", .year2024⟩⟩,
    ⟨.submit "attempt" (.autosave response) none, ⟨"", "draft", .year2024⟩⟩,
    ⟨.submit "attempt" (.save response) (some "draft"), ⟨"", "second", .year2024⟩⟩,
    ⟨.render "elsewhere", ⟨"", "", .year2024⟩⟩]

theorem sitting_offers : ∀ ticket ∈ sitting, ticket.Offers CanBeSent := by
  intro ticket hticket id submission expected hcall response hresponse
  simp only [sitting, List.mem_cons, List.not_mem_nil, or_false] at hticket
  rcases hticket with rfl | rfl | rfl | rfl <;> cases hcall <;> cases hresponse <;> rfl

/-- a sitting at which a draft is made and goes again -/
theorem interchangeable_sitting :
    (∃ tables, ((Ticket.session sitting).via answer).run Server.obey (.resting Keyed.empty) =
        (((Ticket.session sitting).run Store.answer Store.empty).1, .resting tables) ∧
      Mirrors ((Ticket.session sitting).run Store.answer Store.empty).2 tables) ∧
    ∃ tables, (((Ticket.session sitting).via answer).run Deployment.answer ⟨.resting Keyed.empty, []⟩).1 =
        ((Ticket.session sitting).run Store.answer Store.empty).1 ∧
      Mirrors ((Ticket.session sitting).run Store.answer Store.empty).2 tables := by
  have hfresh : (sitting.flatMap Ticket.ids).Nodup := by decide
  have hroom : ((Ticket.session sitting).run Store.answer Store.empty).2.HasRoom := by decide +kernel
  obtain ⟨hobeys, hdeployment⟩ := interchangeable hfresh hroom
  obtain ⟨tables, hreports, -, hmirrors⟩ := hdeployment ⟨.resting Keyed.empty, []⟩ ⟨rfl, rfl, rfl⟩ sitting_offers
  exact ⟨hobeys, tables, hreports, hmirrors⟩

end Database

end AttemptLog
