import AttemptLog.Proofs.Restriction
import AttemptLog.Proofs.Service.Phase
/-!
Attempts do not get in each other's way.

A call has one address: the attempt that it is about, or the one that it begins. All its questions are about this
attempt (`program_asksOnly`), and a question about an attempt reads and changes nothing else of a store
(`owns_about`). So the calls for one attempt can be looked at alone, whatever the store holds and whatever else comes
in (`attempts_apart`). Nothing is asked of identities here: two calls may be issued the same.
-/
namespace AttemptLog

def Query.target? : Query → Option String
  | .create attempt _ => some attempt.id
  | .find id | .load id | .commit id _ _ => some id
  | .ping => none

/-- the attempt that a call is for: the one that it is about, or the one that it begins -/
def Ticket.address (ticket : Ticket) : String := ticket.call.target?.getD ticket.issue.attemptId

def Query.IsAbout (id : String) (query : Query) : Prop := query.target? = some id

/-! ## What a question is about -/

namespace Store

/-- what a store holds of an attempt: its record and its steps -/
def about (id : String) (store : Store) : Option Attempt × Option (List Step) :=
  (store.attempts.get? id, store.steps.get? id)

theorem ext_about {a b : Store} (h : ∀ id, a.about id = b.about id) : a = b := by
  obtain ⟨attempts, steps⟩ := a
  obtain ⟨attempts', steps'⟩ := b
  obtain rfl : attempts = attempts' := Keyed.ext_get? fun id => congrArg Prod.fst (h id)
  obtain rfl : steps = steps' := Keyed.ext_get? fun id => congrArg Prod.snd (h id)
  rfl

theorem create_other {store next : Store} {attempt : Attempt} {first : Step} {id : String}
    (h : store.create attempt first = .ok next) (hne : id ≠ attempt.id) : next.about id = store.about id := by
  unfold create at h
  split at h
  · cases h
  · cases h
    simp [about, hne]

theorem commit_other {store next : Store} {id other expected : String} {change : Change}
    (h : store.commit id expected change = .ok next) (hne : other ≠ id) : next.about other = store.about other := by
  obtain ⟨before, after, -, -, -, rfl⟩ := commit_eq_ok h
  simp [about, hne]

/-- two stores that hold the same of an attempt either both keep a new one, or both refuse it -/
theorem create_congr {a b : Store} {attempt : Attempt} (first : Step) (h : a.about attempt.id = b.about attempt.id) :
    (a.settle (a.create attempt first)).1 = (b.settle (b.create attempt first)).1 ∧
      (a.settle (a.create attempt first)).2.about attempt.id =
        (b.settle (b.create attempt first)).2.about attempt.id := by
  have hcontains : a.attempts.contains attempt.id = b.attempts.contains attempt.id :=
    congrArg Option.isSome (congrArg Prod.fst h)
  cases hknown : b.attempts.contains attempt.id with
  | true => simp [create, hcontains, hknown, settle, h]
  | false => simp [create, hcontains, hknown, settle, about]

/-- two stores that hold the same of an attempt carry the same changes of it out -/
theorem commit_congr {a b : Store} {id : String} (expected : String) (change : Change) (h : a.about id = b.about id) :
    (a.settle (a.commit id expected change)).1 = (b.settle (b.commit id expected change)).1 ∧
      (a.settle (a.commit id expected change)).2.about id = (b.settle (b.commit id expected change)).2.about id := by
  have hattempts : a.attempts.get? id = b.attempts.get? id := congrArg Prod.fst h
  have hsteps : a.steps.get? id = b.steps.get? id := congrArg Prod.snd h
  unfold commit
  rw [hsteps]
  cases b.steps.get? id with
  | none => exact ⟨rfl, h⟩
  | some steps =>
    by_cases hlast : lastId steps ≠ expected
    · simp only [if_pos hlast]
      exact ⟨rfl, h⟩
    · simp only [if_neg hlast]
      cases change.apply steps with
      | error failure => exact ⟨rfl, h⟩
      | ok kept => simp [Except.map, settle, about, hattempts]

/-- **What a store holds of an attempt is the business of the questions about it.** -/
theorem owns_about (id : String) : Owns answer (about id) (Query.IsAbout id) where
  other request store hother := by
    cases request with
    | create attempt first =>
      have hne : id ≠ attempt.id := fun heq => hother (congrArg some heq.symm)
      cases hnext : store.create attempt first with
      | error failure => simp only [answer, hnext, settle]
      | ok next => simpa only [answer, hnext, settle] using create_other hnext hne
    | commit target expected change =>
      have hne : id ≠ target := fun heq => hother (congrArg some heq.symm)
      cases hnext : store.commit target expected change with
      | error failure => simp only [answer, hnext, settle]
      | ok next => simpa only [answer, hnext, settle] using commit_other hnext hne
    | find target | load target | ping => rfl
  reply request a b hown hsame := by
    cases request with
    | ping => cases hown
    | create attempt first =>
      cases hown
      exact (create_congr first hsame).1
    | find target =>
      cases hown
      exact congrArg Except.ok (congrArg Prod.fst hsame)
    | load target =>
      cases hown
      exact congrArg (fun steps => Except.ok (Option.getD steps [])) (congrArg Prod.snd hsame)
    | commit target expected change =>
      cases hown
      exact (commit_congr expected change hsame).1
  change request a b hown hsame := by
    cases request with
    | ping => cases hown
    | create attempt first =>
      cases hown
      exact (create_congr first hsame).2
    | find target | load target => exact hsame
    | commit target expected change =>
      cases hown
      exact (commit_congr expected change hsame).2

end Store

/-! ## What a call asks -/

section Reading

variable {id : String}

theorem conclude_asksOnly {call : Call} (h : call.target? = some id) (issue : Issue) (viewed : Except Failure View) :
    (call.conclude issue viewed).AsksOnly (Query.IsAbout id) := by
  cases call with
  | start questionId userId => cases h
  | render other | load other | size other | last other => trivial
  | submit other submission expected =>
    cases h
    cases viewed with
    | error failure => trivial
    | ok view =>
      simp only [Call.conclude]
      split
      · trivial
      · split
        · trivial
        · exact ⟨rfl, fun reply => by cases reply <;> trivial⟩

theorem afterFind_asksOnly {go : Except Failure View → Program storeInterface (Report Answer)}
    (hgo : ∀ viewed, (go viewed).AsksOnly (Query.IsAbout id)) (found : Except Failure (Option Attempt)) :
    (afterFind id go found).AsksOnly (Query.IsAbout id) := by
  cases found with
  | error failure => exact hgo _
  | ok found =>
    cases found with
    | none => exact hgo _
    | some attempt => exact ⟨rfl, fun loaded => by cases loaded <;> exact hgo _⟩

/-- **A call asks about its attempt only**, however it is answered. -/
theorem Ticket.program_asksOnly (ticket : Ticket) : ticket.program.AsksOnly (Query.IsAbout ticket.address) := by
  rcases ticket.program_cases with ⟨questionId, userId, hcall, hprogram⟩ | ⟨id, htarget, hprogram⟩
  · have haddress : ticket.address = ticket.issue.attemptId := by simp [address, hcall, Call.target?]
    rw [hprogram, haddress]
    exact ⟨rfl, fun reply => by cases reply <;> trivial⟩
  · have haddress : ticket.address = id := by simp [address, htarget]
    rw [hprogram, haddress]
    exact ⟨rfl, afterFind_asksOnly fun viewed => conclude_asksOnly htarget ticket.issue viewed⟩

end Reading

namespace Ticket

theorem program_asks_others {ticket : Ticket} {id : String} (hne : ticket.address ≠ id) :
    ticket.program.AsksOnly fun query : Query => ¬ query.IsAbout id := by
  refine ticket.program_asksOnly.imp fun query habout => ?_
  intro hother
  exact hne (Option.some.inj (habout.symm.trans hother))

theorem run_elsewhere {ticket : Ticket} {id : String} (hne : ticket.address ≠ id) (store : Store) :
    (ticket.program.run Store.answer store).2.about id = store.about id :=
  Program.run_of_other (Store.owns_about id) (program_asks_others hne) store

theorem run_depends (ticket : Ticket) {a b : Store} (hsame : a.about ticket.address = b.about ticket.address) :
    (ticket.program.run Store.answer a).1 = (ticket.program.run Store.answer b).1 ∧
      (ticket.program.run Store.answer a).2.about ticket.address =
        (ticket.program.run Store.answer b).2.about ticket.address :=
  Program.run_of_own (Store.owns_about _) ticket.program_asksOnly hsame

end Ticket

namespace Traffic

/-- the traffic after a schedule that begins with any store -/
abbrev onto (store : Store) (moves : List (Move Ticket)) : Traffic :=
  World.run Store.answer Ticket.program (World.start store) moves

abbrev isFor (id : String) (ticket : Ticket) : Bool := ticket.address == id

theorem minds_isFor (id : String) (ticket : Ticket) :
    World.MindsItsBusiness (Query.IsAbout id) (isFor id) (Job.mk ticket ticket.program) := by
  refine ticket.program_asksOnly.imp fun query habout => ?_
  rw [Query.IsAbout] at habout ⊢
  rw [habout, Option.some.injEq, isFor, beq_iff_eq]

/-- the calls for one attempt alone -/
theorem onto_only (store : Store) (moves : List (Move Ticket)) (id : String) :
    World.Shadows (Store.about id) (isFor id) (Move.tickets moves) (onto store (Move.only (isFor id) moves))
      (onto store moves) :=
  World.run_only (Store.owns_about id) (minds_isFor id) store moves

/-- calls for different attempts commute -/
theorem run_comm (store : Store) {a b : Ticket} (hne : a.address ≠ b.address) :
    (b.program.run Store.answer (a.program.run Store.answer store).2).1 = (b.program.run Store.answer store).1 ∧
      (a.program.run Store.answer (b.program.run Store.answer store).2).2 =
        (b.program.run Store.answer (a.program.run Store.answer store).2).2 := by
  have hfirst := b.run_depends (Ticket.run_elsewhere hne store)
  have hsecond := a.run_depends (Ticket.run_elsewhere hne.symm store)
  refine ⟨hfirst.1, Store.ext_about fun id => ?_⟩
  by_cases ha : a.address = id
  · subst ha
    exact hsecond.2.trans (Ticket.run_elsewhere hne.symm _).symm
  · by_cases hb : b.address = id
    · subst hb
      exact (Ticket.run_elsewhere hne _).trans hfirst.2.symm
    · rw [Ticket.run_elsewhere ha, Ticket.run_elsewhere hb, Ticket.run_elsewhere hb, Ticket.run_elsewhere ha]

/-- **Attempts do not get in each other's way.** Let calls come in and be answered in any order, beginning with any
store.

- If only the calls for one attempt come in, in the same order and with the same issued to them, then each of them
  comes as far as before, with the same report if it is done, and the record and the steps of the attempt are the
  same.
- So the store does not depend on how the calls for different attempts are mixed.
- Two calls for different attempts commute: each reports what it does alone, and the store is the same either way. -/
theorem attempts_apart (store : Store) :
    (∀ moves id,
      let alone := onto store (Move.only (isFor id) moves)
      let whole := onto store moves
      alone.jobs = whole.jobs.filter (fun job => job.ticket.address == id) ∧
        alone.endings = (whole.endings.filter fun ending => ending.ticket.address == id).map
          (Ending.among (isFor id) (Move.tickets moves)) ∧
        alone.state.attempts.get? id = whole.state.attempts.get? id ∧
        alone.state.steps.get? id = whole.state.steps.get? id) ∧
      (∀ moves more, (∀ id, Move.only (isFor id) moves = Move.only (isFor id) more) →
        (onto store moves).state = (onto store more).state) ∧
      ∀ a b : Ticket, a.address ≠ b.address →
        let afterA := a.program.run Store.answer store
        let afterB := b.program.run Store.answer store
        (a.program.run Store.answer afterB.2).1 = afterA.1 ∧ (b.program.run Store.answer afterA.2).1 = afterB.1 ∧
          (a.program.run Store.answer afterB.2).2 = (b.program.run Store.answer afterA.2).2 := by
  refine ⟨fun moves id => ?_, fun moves more hsame => ?_, fun a b hne => ?_⟩
  · have hshadows := onto_only store moves id
    exact ⟨hshadows.jobs, hshadows.endings, congrArg Prod.fst hshadows.part, congrArg Prod.snd hshadows.part⟩
  · refine Store.ext_about fun id => ?_
    rw [← (onto_only store moves id).part, ← (onto_only store more id).part, hsame id]
  · exact ⟨(run_comm store hne.symm).1, (run_comm store hne).1, (run_comm store hne).2⟩

/-- an attempt is there already -/
def rightOnly : Store :=
  (Ticket.program ⟨.start "question" "user", ⟨"right", "first", .year2024⟩⟩).run Store.answer Store.empty |>.2

/-- another attempt begins and gets a step, while the first one gets two, of which the second one is handed in too
late -/
def twoSided (turns : List Nat) : List (Move Ticket) :=
  [.enter ⟨.start "question" "user", ⟨"left", "first", .year2024⟩⟩,
    .enter ⟨.submit "left" (.append Keyed.empty) none, ⟨"", "second", .year2024⟩⟩,
    .enter ⟨.submit "right" (.append Keyed.empty) none, ⟨"", "third", .year2024⟩⟩,
    .enter ⟨.submit "right" (.grade .graded none) none, ⟨"", "fourth", .year2024⟩⟩] ++ turns.map .advance

/-- the calls of the two attempts take turns, or those of the one attempt come before those of the other one -/
theorem attempts_apart_two_sided :
    (onto rightOnly (twoSided [2, 0, 3, 1, 2, 1, 3, 1, 2, 3])).state =
        (onto rightOnly (twoSided [0, 1, 1, 1, 2, 3, 2, 3, 2, 3])).state ∧
      ((onto rightOnly (twoSided [2, 0, 3, 1, 2, 1, 3, 1, 2, 3])).state.stepsOf "right").map (·.id) =
        ["first", "third"] ∧
      ((onto rightOnly (twoSided [2, 0, 3, 1, 2, 1, 3, 1, 2, 3])).state.stepsOf "left").map (·.id) =
        ["first", "second"] ∧
      ∃ a b : Ticket, a.address ≠ b.address ∧
        (a.program.run Store.answer (b.program.run Store.answer rightOnly).2).2 =
          (b.program.run Store.answer (a.program.run Store.answer rightOnly).2).2 := by
  have hsame : ∀ id, Move.only (isFor id) (twoSided [2, 0, 3, 1, 2, 1, 3, 1, 2, 3]) =
      Move.only (isFor id) (twoSided [0, 1, 1, 1, 2, 3, 2, 3, 2, 3]) := by
    intro id
    by_cases hleft : "left" = id
    · subst hleft
      rfl
    · by_cases hright : "right" = id
      · subst hright
        rfl
      · simp [twoSided, Move.only, Move.among?, Move.tickets, Move.ticket?, isFor, Ticket.address, Call.target?, hleft,
          hright]
  obtain ⟨-, hstate, hcommute⟩ := attempts_apart rightOnly
  have hne : Ticket.address ⟨.start "question" "user", ⟨"left", "first", .year2024⟩⟩ ≠
      Ticket.address ⟨.submit "right" (.save Keyed.empty) none, ⟨"", "second", .year2024⟩⟩ := by decide
  exact ⟨hstate _ _ hsame, by decide, by decide, _, _, hne, (hcommute _ _ hne).2.2⟩

end Traffic

end AttemptLog
