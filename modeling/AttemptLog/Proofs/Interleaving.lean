import AttemptLog.Program
import Mathlib.Tactic
/-!
Programs side by side.

A world is a state and the programs that work on it. In one move somebody comes in with a ticket, which says what
program to run, or the program at some place asks its next question and is answered by the state as it is then. The
questions of different programs can thus follow each other in any order, and a program can be left waiting for ever.
`endings` holds the programs that came to their end, in the order in which they asked their last questions.

`Settled` says that the endings are those of the programs that are done, one for each, and `run_settled` that this is
so after every schedule. `ending_of_turns` says that a program comes to its end if it is answered often enough, and
`run_endings` finds the move that an ending belongs to.
-/
namespace AttemptLog

/-- one move: somebody comes in, or the program at a place asks its next question -/
inductive Move (κ : Type) where
  | enter (ticket : κ)
  | advance (place : Nat)

def Move.ticket? {κ : Type} : Move κ → Option κ
  | .enter ticket => some ticket
  | .advance _ => none

def Move.tickets {κ : Type} (moves : List (Move κ)) : List κ := moves.filterMap Move.ticket?

theorem Move.tickets_append {κ : Type} (moves more : List (Move κ)) :
    Move.tickets (moves ++ more) = Move.tickets moves ++ Move.tickets more :=
  List.filterMap_append

/-- the place at which a program is answered -/
def Move.place? {κ : Type} : Move κ → Option Nat
  | .enter _ => none
  | .advance place => some place

def Move.turns {κ : Type} (place : Nat) (moves : List (Move κ)) : Nat := (moves.filterMap Move.place?).count place

theorem Move.turns_concat {κ : Type} (place : Nat) (moves : List (Move κ)) (move : Move κ) :
    Move.turns place (moves ++ [move]) = Move.turns place moves + if move.place? = some place then 1 else 0 := by
  cases move <;> simp [Move.turns, Move.place?, List.filterMap_cons, List.count_singleton]

structure Job (I : Interface) (κ α : Type) where
  ticket : κ
  rest : Program I α

/-- a program that came to its end: the last question that it asked, if it asked any, and its result -/
structure Ending (I : Interface) (κ α : Type) where
  place : Nat
  ticket : κ
  last : Option I.Request
  result : α

/-- a state, the programs that work on it in the order in which they came in, and those that came to their end -/
structure World (I : Interface) (σ κ α : Type) where
  state : σ
  jobs : List (Job I κ α)
  endings : List (Ending I κ α)

variable {I : Interface} {σ κ α : Type}

/-- does a program come to its end within so many turns, however it is answered -/
def Program.EndsWithin : Nat → Program I α → Prop
  | _, .done _ => True
  | 0, .ask _ _ => False
  | turns + 1, .ask _ next => ∀ reply, (next reply).EndsWithin turns

theorem Program.endsWithin_done (turns : Nat) (value : α) : (Program.done value : Program I α).EndsWithin turns := by
  cases turns <;> trivial

def endingOf (place : Nat) (ticket : κ) (last : Option I.Request) : Program I α → List (Ending I κ α)
  | .done result => [⟨place, ticket, last, result⟩]
  | .ask _ _ => []

theorem mem_endingOf_bind {κ' β : Type} {place : Nat} {ticket : κ} {last : Option I.Request} {program : Program I β}
    {look : β → α} {ending : Ending I κ α}
    (h : ending ∈ endingOf place ticket last (program.bind fun value => .done (look value))) (other : κ') :
    ∃ value, ⟨place, other, last, value⟩ ∈ endingOf place other last program ∧ ending.result = look value := by
  cases program with
  | ask request next => cases h
  | done value =>
    obtain rfl := List.mem_singleton.1 h
    exact ⟨value, List.mem_singleton_self _, rfl⟩

namespace World

def start (state : σ) : World I σ κ α := ⟨state, [], []⟩

def tickets (world : World I σ κ α) : List κ := world.jobs.map (·.ticket)

def asks? (world : World I σ κ α) (place : Nat) : Option I.Request :=
  match world.jobs[place]? with
  | some ⟨_, .ask request _⟩ => some request
  | _ => none

variable (handler : Handler I σ) (program : κ → Program I α)

def step (world : World I σ κ α) : Move κ → World I σ κ α
  | .enter ticket =>
    { world with
      jobs := world.jobs ++ [⟨ticket, program ticket⟩]
      endings := world.endings ++ endingOf world.jobs.length ticket none (program ticket) }
  | .advance place =>
    match world.jobs[place]? with
    | some ⟨ticket, .ask request next⟩ =>
      let (reply, state) := handler request world.state
      { state := state
        jobs := world.jobs.set place ⟨ticket, next reply⟩
        endings := world.endings ++ endingOf place ticket (some request) (next reply) }
    | _ => world

def run (world : World I σ κ α) (moves : List (Move κ)) : World I σ κ α := moves.foldl (step handler program) world

/-- a move that changes anything is somebody's coming in or a question -/
theorem step_advance_cases (world : World I σ κ α) (place : Nat) :
    world.step handler program (.advance place) = world ∨
      ∃ ticket request, ∃ next : I.Reply request → Program I α,
        world.jobs[place]? = some ⟨ticket, .ask request next⟩ := by
  cases hjob : world.jobs[place]? with
  | none => exact .inl (by simp only [step, hjob])
  | some job =>
    obtain ⟨ticket, rest⟩ := job
    cases rest with
    | done result => exact .inl (by simp only [step, hjob])
    | ask request next => exact .inr ⟨ticket, request, next, rfl⟩

variable {handler program}

@[simp]
theorem run_nil (world : World I σ κ α) : world.run handler program [] = world := rfl

@[simp]
theorem run_concat (world : World I σ κ α) (moves : List (Move κ)) (move : Move κ) :
    world.run handler program (moves ++ [move]) = (world.run handler program moves).step handler program move := by
  simp [run]

theorem step_ask {world : World I σ κ α} {place : Nat} {ticket : κ} {request : I.Request}
    {next : I.Reply request → Program I α} (h : world.jobs[place]? = some ⟨ticket, .ask request next⟩) :
    world.step handler program (.advance place) =
      ⟨(handler request world.state).2, world.jobs.set place ⟨ticket, next (handler request world.state).1⟩,
        world.endings ++ endingOf place ticket (some request) (next (handler request world.state).1)⟩ := by
  simp only [step, h]

/-! ## Who is where -/

theorem jobs_enter_cases {world : World I σ κ α} {place : Nat} {entering ticket : κ} {rest : Program I α}
    (h : (world.step handler program (.enter entering)).jobs[place]? = some ⟨ticket, rest⟩) :
    world.jobs[place]? = some ⟨ticket, rest⟩ ∨
      place = world.jobs.length ∧ ticket = entering ∧ rest = program entering := by
  simp only [step, List.getElem?_append] at h
  split at h
  · exact .inl h
  · next hplace =>
    rw [List.getElem?_singleton] at h
    split at h
    · next hfirst =>
      cases h
      exact .inr ⟨by omega, rfl, rfl⟩
    · cases h

theorem jobs_enter_old {world : World I σ κ α} {place : Nat} (ticket : κ) {job : Job I κ α}
    (h : world.jobs[place]? = some job) : (world.step handler program (.enter ticket)).jobs[place]? = some job := by
  obtain ⟨hplace, -⟩ := List.getElem?_eq_some_iff.1 h
  exact (List.getElem?_append_left hplace).trans h

theorem jobs_enter_new (world : World I σ κ α) (ticket : κ) :
    (world.step handler program (.enter ticket)).jobs[world.jobs.length]? = some ⟨ticket, program ticket⟩ :=
  List.getElem?_concat_length

theorem jobs_advance_self {world : World I σ κ α} {place : Nat} {ticket : κ} {request : I.Request}
    {next : I.Reply request → Program I α} (h : world.jobs[place]? = some ⟨ticket, .ask request next⟩) :
    (world.step handler program (.advance place)).jobs[place]? =
      some ⟨ticket, next (handler request world.state).1⟩ := by
  obtain ⟨hplace, -⟩ := List.getElem?_eq_some_iff.1 h
  rw [step_ask h]
  exact List.getElem?_set_self hplace

theorem jobs_advance_other (world : World I σ κ α) {place other : Nat} (hne : other ≠ place) :
    (world.step handler program (.advance place)).jobs[other]? = world.jobs[other]? := by
  rcases world.step_advance_cases handler program place with hsame | ⟨ticket, request, next, hjob⟩
  · rw [hsame]
  · rw [step_ask hjob]
    exact List.getElem?_set_ne (Ne.symm hne)

theorem length_advance (world : World I σ κ α) (place : Nat) :
    (world.step handler program (.advance place)).jobs.length = world.jobs.length := by
  rcases world.step_advance_cases handler program place with hsame | ⟨ticket, request, next, hjob⟩
  · rw [hsame]
  · rw [step_ask hjob]
    exact List.length_set

/-! ## Who came in -/

theorem tickets_step (world : World I σ κ α) (move : Move κ) :
    (world.step handler program move).tickets = world.tickets ++ Move.tickets [move] := by
  cases move with
  | enter ticket => simp [step, tickets, Move.tickets, Move.ticket?]
  | advance place =>
    rcases world.step_advance_cases handler program place with hsame | ⟨ticket, request, next, hjob⟩
    · rw [hsame]
      simp [Move.tickets, Move.ticket?]
    · have hticket : (world.jobs.map (·.ticket))[place]? = some ticket := by rw [List.getElem?_map, hjob]; rfl
      obtain ⟨hplace, hget⟩ := List.getElem?_eq_some_iff.1 hticket
      rw [step_ask hjob]
      simp only [tickets, Move.tickets, List.map_set, List.filterMap_cons, Move.ticket?, List.filterMap_nil,
        List.append_nil]
      rw [← hget, List.set_getElem_self]

@[simp]
theorem tickets_run (world : World I σ κ α) (moves : List (Move κ)) :
    (world.run handler program moves).tickets = world.tickets ++ Move.tickets moves := by
  induction moves using List.reverseRecOn with
  | nil => simp [Move.tickets]
  | append_singleton moves move ih =>
    rw [run_concat, tickets_step, ih, Move.tickets_append, List.append_assoc]

/-! ## Who is done -/

/-- are the endings those of the programs that are done, one for each -/
structure Settled (world : World I σ κ α) : Prop where
  done : ∀ ending ∈ world.endings, world.jobs[ending.place]? = some ⟨ending.ticket, .done ending.result⟩
  complete : ∀ place ticket result, world.jobs[place]? = some ⟨ticket, .done result⟩ →
    ∃ ending ∈ world.endings, ending.place = place
  nodup : (world.endings.map (·.place)).Nodup

/-- a program that had no ending yet went on, and has one now if it is done -/
theorem Settled.of_rest {world next : World I σ κ α} (h : world.Settled) {place : Nat} {ticket : κ}
    {last : Option I.Request} {rest : Program I α} (hnew : ∀ ending ∈ world.endings, ending.place ≠ place)
    (hplace : next.jobs[place]? = some ⟨ticket, rest⟩)
    (hother : ∀ other, other ≠ place → next.jobs[other]? = world.jobs[other]?)
    (hendings : next.endings = world.endings ++ endingOf place ticket last rest) : next.Settled := by
  cases rest with
  | ask request go =>
    have hsame : next.endings = world.endings := by simpa [endingOf] using hendings
    refine ⟨fun ending hmem => ?_, fun other ticket' result hjob => ?_, by rw [hsame]; exact h.nodup⟩
    · rw [hsame] at hmem
      rw [hother _ (hnew ending hmem)]
      exact h.done ending hmem
    · have hne : other ≠ place := by
        rintro rfl
        rw [hplace] at hjob
        cases hjob
      rw [hother other hne] at hjob
      rw [hsame]
      exact h.complete other ticket' result hjob
  | done value =>
    have hadd : next.endings = world.endings ++ [⟨place, ticket, last, value⟩] := hendings
    refine ⟨fun ending hmem => ?_, fun other ticket' result hjob => ?_, ?_⟩
    · rw [hadd, List.mem_append, List.mem_singleton] at hmem
      rcases hmem with hmem | rfl
      · rw [hother _ (hnew ending hmem)]
        exact h.done ending hmem
      · exact hplace
    · rw [hadd]
      by_cases heq : other = place
      · exact ⟨_, List.mem_append_right _ (List.mem_singleton_self _), heq.symm⟩
      · rw [hother other heq] at hjob
        obtain ⟨ending, hmem, hending⟩ := h.complete other ticket' result hjob
        exact ⟨ending, List.mem_append_left _ hmem, hending⟩
    · rw [hadd, List.map_append, List.nodup_append]
      refine ⟨h.nodup, List.nodup_singleton _, ?_⟩
      intro a ha b hb hab
      obtain ⟨ending, hmem, rfl⟩ := List.mem_map.1 ha
      rw [List.map_singleton, List.mem_singleton] at hb
      exact hnew ending hmem (hab.trans hb)

theorem step_settled {world : World I σ κ α} (h : world.Settled) (move : Move κ) :
    (world.step handler program move).Settled := by
  cases move with
  | enter ticket =>
    have hnew : ∀ ending ∈ world.endings, ending.place ≠ world.jobs.length := by
      intro ending hmem heq
      have hdone := h.done ending hmem
      rw [heq, List.getElem?_eq_none (Nat.le_refl _)] at hdone
      cases hdone
    refine h.of_rest hnew (jobs_enter_new world ticket) (fun other hne => ?_) rfl
    simp only [step]
    rcases Nat.lt_or_gt_of_ne hne with hlt | hgt
    · exact List.getElem?_append_left hlt
    · rw [List.getElem?_eq_none (by simp; omega), List.getElem?_eq_none (by omega)]
  | advance place =>
    rcases world.step_advance_cases handler program place with hsame | ⟨ticket, request, next, hjob⟩
    · rw [hsame]
      exact h
    · have hnew : ∀ ending ∈ world.endings, ending.place ≠ place := by
        intro ending hmem heq
        have hdone := h.done ending hmem
        rw [heq, hjob] at hdone
        cases hdone
      have hendings : (world.step handler program (.advance place)).endings = world.endings ++
          endingOf place ticket (some request) (next (handler request world.state).1) := by rw [step_ask hjob]
      exact h.of_rest hnew (jobs_advance_self hjob) (fun other hne => jobs_advance_other world hne) hendings

theorem start_settled (state : σ) : (start state : World I σ κ α).Settled :=
  ⟨by simp [start], by simp [start], by simp [start]⟩

/-- **Each program that is done has exactly one ending**, whatever the schedule. -/
theorem run_settled (state : σ) (moves : List (Move κ)) : ((start state).run handler program moves).Settled := by
  induction moves using List.reverseRecOn with
  | nil => exact start_settled state
  | append_singleton moves move ih =>
    rw [run_concat]
    exact step_settled ih move

/-! ## When a program ends -/

theorem turn_endsWithin {world : World I σ κ α} {place : Nat} {ticket : κ} {rest : Program I α} {turns : Nat}
    (hjob : world.jobs[place]? = some ⟨ticket, rest⟩) (hends : rest.EndsWithin turns) :
    ∃ left, (world.step handler program (.advance place)).jobs[place]? = some ⟨ticket, left⟩ ∧
      left.EndsWithin (turns - 1) := by
  cases rest with
  | done result =>
    refine ⟨.done result, ?_, Program.endsWithin_done _ _⟩
    simp only [step, hjob]
  | ask request next =>
    cases turns with
    | zero => exact hends.elim
    | succ turns => exact ⟨_, jobs_advance_self hjob, hends _⟩

/-- each turn of a program brings it nearer to its end -/
theorem run_endsWithin {world : World I σ κ α} {place : Nat} {ticket : κ} {rest : Program I α} {turns : Nat}
    (hjob : world.jobs[place]? = some ⟨ticket, rest⟩) (hends : rest.EndsWithin turns) (moves : List (Move κ)) :
    ∃ left, (world.run handler program moves).jobs[place]? = some ⟨ticket, left⟩ ∧
      left.EndsWithin (turns - Move.turns place moves) := by
  induction moves using List.reverseRecOn with
  | nil => exact ⟨rest, hjob, hends⟩
  | append_singleton moves move ih =>
    obtain ⟨left, hleft, hwithin⟩ := ih
    rw [run_concat, Move.turns_concat]
    cases move with
    | enter entering => exact ⟨left, jobs_enter_old entering hleft, hwithin⟩
    | advance other =>
      by_cases heq : other = place
      · subst heq
        simp only [Move.place?, ite_true, Nat.sub_add_eq]
        exact turn_endsWithin hleft hwithin
      · refine ⟨left, (jobs_advance_other _ (Ne.symm heq)).trans hleft, ?_⟩
        simpa [Move.place?, heq] using hwithin

/-- **A program that has had its turns is done.** -/
theorem Settled.ending_of_turns {world : World I σ κ α} {moves : List (Move κ)}
    (h : (world.run handler program moves).Settled) {place : Nat} {ticket : κ} {rest : Program I α} {turns : Nat}
    (hjob : world.jobs[place]? = some ⟨ticket, rest⟩) (hends : rest.EndsWithin turns)
    (hturns : turns ≤ Move.turns place moves) :
    ∃ ending ∈ (world.run handler program moves).endings, ending.place = place := by
  obtain ⟨left, hleft, hwithin⟩ : ∃ left, (world.run handler program moves).jobs[place]? = some ⟨ticket, left⟩ ∧
      left.EndsWithin (turns - Move.turns place moves) := run_endsWithin hjob hends moves
  rw [Nat.sub_eq_zero_of_le hturns] at hwithin
  cases left with
  | ask request next => exact hwithin.elim
  | done result => exact h.complete place ticket result hleft

/-- **A program that has enough turns to itself is run to its end.** -/
theorem run_turns {world : World I σ κ α} {place : Nat} {ticket : κ} {rest : Program I α} {turns : Nat}
    (hjob : world.jobs[place]? = some ⟨ticket, rest⟩) (hends : rest.EndsWithin turns) :
    (world.run handler program (List.replicate turns (.advance place))).state = (rest.run handler world.state).2 := by
  induction turns generalizing world rest with
  | zero =>
    cases rest with
    | done result => rfl
    | ask request next => exact hends.elim
  | succ turns ih =>
    rw [List.replicate_succ, run, List.foldl_cons]
    cases rest with
    | done result =>
      have hsame : world.step handler program (.advance place) = world := by simp only [step, hjob]
      rw [hsame]
      exact ih hjob (Program.endsWithin_done _ _)
    | ask request next =>
      have hstate : (world.step handler program (.advance place)).state = (handler request world.state).2 := by
        rw [step_ask hjob]
      refine (ih (jobs_advance_self hjob) (hends _)).trans ?_
      rw [hstate]
      rfl

/-! ## When a program ended -/

/-- is this the ending that comes next when the program at its place is answered -/
def EndsNext (handler : Handler I σ) (world : World I σ κ α) (ending : Ending I κ α) : Prop :=
  ∃ request, ∃ next : I.Reply request → Program I α,
    world.jobs[ending.place]? = some ⟨ending.ticket, .ask request next⟩ ∧ ending.last = some request ∧
      next (handler request world.state).1 = .done ending.result

theorem step_endings (hasks : ∀ ticket, ∃ request next, program ticket = .ask request next) (world : World I σ κ α)
    (move : Move κ) :
    (world.step handler program move).endings = world.endings ∨
      ∃ ending, move = .advance ending.place ∧ world.EndsNext handler ending ∧
        (world.step handler program move).endings = world.endings ++ [ending] := by
  cases move with
  | enter ticket =>
    obtain ⟨request, next, hprogram⟩ := hasks ticket
    exact .inl (by simp [step, hprogram, endingOf])
  | advance place =>
    rcases world.step_advance_cases handler program place with hsame | ⟨ticket, request, next, hjob⟩
    · exact .inl (by rw [hsame])
    · rw [step_ask hjob]
      cases hrest : next (handler request world.state).1 with
      | ask further go => exact .inl (by simp [endingOf])
      | done result => exact .inr ⟨⟨place, ticket, some request, result⟩, rfl, ⟨request, next, hjob, rfl, hrest⟩, rfl⟩

/-- **Each ending has its move**: the program was answered for the last time when those before it had ended. -/
theorem run_endings (hasks : ∀ ticket, ∃ request next, program ticket = .ask request next) {state : σ}
    {moves : List (Move κ)} {front back : List (Ending I κ α)} {ending : Ending I κ α}
    (h : ((start state).run handler program moves).endings = front ++ ending :: back) :
    ∃ before rest, moves = before ++ .advance ending.place :: rest ∧
      ((start state).run handler program before).endings = front ∧
      ((start state).run handler program before).EndsNext handler ending := by
  induction moves using List.reverseRecOn generalizing back with
  | nil => simp [start] at h
  | append_singleton moves move ih =>
    have hearlier : ∀ back', ((start state).run handler program moves).endings = front ++ ending :: back' →
        ∃ before rest, moves ++ [move] = before ++ .advance ending.place :: rest ∧
          ((start state).run handler program before).endings = front ∧
          ((start state).run handler program before).EndsNext handler ending := by
      intro back' hback
      obtain ⟨before, rest, rfl, hfront, hends⟩ := ih hback
      exact ⟨before, rest ++ [move], by simp, hfront, hends⟩
    rw [run_concat] at h
    rcases step_endings hasks ((start state).run handler program moves) move with hsame | ⟨new, rfl, hends, hadd⟩
    · rw [hsame] at h
      exact hearlier back h
    · rw [hadd] at h
      rcases List.eq_nil_or_concat back with rfl | ⟨back', final, rfl⟩
      · obtain ⟨hfront, hnew⟩ := List.append_inj' h rfl
        obtain rfl := List.singleton_inj.1 hnew
        exact ⟨moves, [], rfl, hfront, hends⟩
      · rw [List.concat_eq_append, ← List.cons_append, ← List.append_assoc] at h
        exact hearlier back' (List.append_inj' h rfl).1

end World

end AttemptLog
