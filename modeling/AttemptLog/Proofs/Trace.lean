import AttemptLog.Proofs.Interleaving
/-!
The questions of one program among others.

`World.asked` collects the questions that the program at one place asks in a schedule, each with the state in which it
was answered. `Program.Goes` says how far a program comes with such questions, without a word about the other
programs, and `goes_asked` that this is how far it came in the schedule. What a program can do to the state and what
it can report is thus found out from the program alone, whatever others do in between.
-/
namespace AttemptLog

/-- a question and the state in which it was answered -/
structure Asked (I : Interface) (σ : Type) where
  request : I.Request
  state : σ

variable {I : Interface} {σ κ α β : Type}

def Asked.IsQuiet (handler : Handler I σ) (asked : Asked I σ) : Prop :=
  (handler asked.request asked.state).2 = asked.state

namespace Program

variable {handler : Handler I σ}

/-- a program asks questions and is answered in these states; what is left of it -/
inductive Goes (handler : Handler I σ) : Program I α → List (Asked I σ) → Program I α → Prop where
  | stays (program : Program I α) : Goes handler program [] program
  | asks {request : I.Request} {next : I.Reply request → Program I α} {asked : List (Asked I σ)} {rest : Program I α}
    (state : σ) (hrest : Goes handler (next (handler request state).1) asked rest) :
    Goes handler (.ask request next) (⟨request, state⟩ :: asked) rest

theorem Goes.concat {program : Program I α} {asked : List (Asked I σ)} {request : I.Request}
    {next : I.Reply request → Program I α} (h : Goes handler program asked (.ask request next)) (state : σ) :
    Goes handler program (asked ++ [⟨request, state⟩]) (next (handler request state).1) := by
  generalize hlast : Program.ask request next = last at h
  induction h with
  | stays program =>
    subst hlast
    exact .asks state (.stays _)
  | asks earlier hrest ih => exact .asks earlier (ih hlast)

theorem Goes.of_done {value : α} {asked : List (Asked I σ)} {rest : Program I α}
    (h : Goes handler (.done value) asked rest) : asked = [] ∧ rest = .done value := by
  cases h
  exact ⟨rfl, rfl⟩

theorem done_eq_bind_done {value : α} {left : Program I β} {look : β → α}
    (h : .done value = left.bind fun result => .done (look result)) :
    ∃ result, left = .done result ∧ value = look result := by
  cases left with
  | ask request next => cases h
  | done result =>
    cases h
    exact ⟨result, rfl, rfl⟩

theorem Goes.of_bind_done {program : Program I β} {look : β → α} {asked : List (Asked I σ)} {rest : Program I α}
    (h : Goes handler (program.bind fun value => .done (look value)) asked rest) :
    ∃ left, Goes handler program asked left ∧ rest = left.bind fun value => .done (look value) := by
  induction asked generalizing program with
  | nil =>
    generalize hprogram : (program.bind fun value => .done (look value)) = whole at h
    cases h
    exact ⟨program, .stays program, hprogram.symm⟩
  | cons first asked ih =>
    cases program with
    | done value => cases h
    | ask request next =>
      cases h with
      | asks state hrest =>
        obtain ⟨left, hleft, rfl⟩ := ih hrest
        exact ⟨left, .asks state hleft, rfl⟩

end Program

namespace World

variable (handler : Handler I σ) (program : κ → Program I α) (place : Nat)

/-- the question that the program at a place asks in one move, if it asks one -/
def turn (world : World I σ κ α) (move : Move κ) : List (Asked I σ) :=
  if move.place? = some place then ((world.asks? place).map fun request => ⟨request, world.state⟩).toList else []

def asked (world : World I σ κ α) : List (Move κ) → List (Asked I σ)
  | [] => []
  | move :: rest => world.turn place move ++ (world.step handler program move).asked rest

/-- does a schedule leave the state as it is wherever the program at a place has its turn -/
def IsIdle (world : World I σ κ α) (moves : List (Move κ)) : Prop :=
  ∀ earlier later, moves = earlier ++ .advance place :: later →
    (world.run handler program (earlier ++ [.advance place])).state = (world.run handler program earlier).state

variable {handler program place}

theorem asked_append (world : World I σ κ α) (earlier later : List (Move κ)) :
    world.asked handler program place (earlier ++ later) =
      world.asked handler program place earlier ++
        (world.run handler program earlier).asked handler program place later := by
  induction earlier generalizing world with
  | nil => rfl
  | cons first rest ih =>
    rw [List.cons_append, asked, asked, ih, List.append_assoc]
    rfl

theorem asked_concat (world : World I σ κ α) (moves : List (Move κ)) (move : Move κ) :
    world.asked handler program place (moves ++ [move]) =
      world.asked handler program place moves ++ (world.run handler program moves).turn place move := by
  rw [asked_append, asked, asked, List.append_nil]

theorem turn_ask {world : World I σ κ α} {ticket : κ} {request : I.Request} {next : I.Reply request → Program I α}
    (hjob : world.jobs[place]? = some ⟨ticket, .ask request next⟩) :
    world.turn place (.advance place) = [⟨request, world.state⟩] := by
  simp [turn, Move.place?, asks?, hjob]

theorem turn_other (world : World I σ κ α) {move : Move κ} (hother : move.place? ≠ some place) :
    world.turn place move = [] := by
  simp [turn, hother]

theorem turn_of_asks?_eq_none {world : World I σ κ α} (h : world.asks? place = none) (move : Move κ) :
    world.turn place move = [] := by
  simp [turn, h]

theorem isIdle_of_quiet {world : World I σ κ α} {moves : List (Move κ)}
    (h : ∀ asked ∈ world.asked handler program place moves, asked.IsQuiet handler) :
    world.IsIdle handler program place moves := by
  intro earlier later hmoves
  subst hmoves
  rw [run_concat]
  generalize hworld : world.run handler program earlier = reached
  rcases reached.step_advance_cases handler program place with hsame | ⟨ticket, request, next, hjob⟩
  · rw [hsame]
  · rw [step_ask hjob]
    have hmem : ⟨request, reached.state⟩ ∈ world.asked handler program place (earlier ++ .advance place :: later) := by
      rw [asked_append, asked, hworld, turn_ask hjob]
      simp
    exact h _ hmem

theorem asked_of_length {world : World I σ κ α} {moves : List (Move κ)}
    (h : (world.run handler program moves).jobs.length ≤ place) : world.asked handler program place moves = [] := by
  induction moves using List.reverseRecOn with
  | nil => rfl
  | append_singleton moves move ih =>
    rw [run_concat] at h
    rw [asked_concat]
    cases move with
    | enter ticket =>
      have hbefore : (world.run handler program moves).jobs.length + 1 ≤ place := by simpa [step] using h
      rw [ih (by omega), turn_other _ (by simp [Move.place?]), List.append_nil]
    | advance other =>
      rw [length_advance] at h
      have hnone : (world.run handler program moves).asks? place = none := by
        simp only [asks?, List.getElem?_eq_none h]
      rw [ih h, turn_of_asks?_eq_none hnone, List.append_nil]

theorem goes_turn {world : World I σ κ α} {ticket other : κ} {whole left rest : Program I α} {asked : List (Asked I σ)}
    (hbefore : world.jobs[place]? = some ⟨ticket, left⟩) (hgoes : whole.Goes handler asked left)
    (hafter : (world.step handler program (.advance place)).jobs[place]? = some ⟨other, rest⟩) :
    other = ticket ∧ whole.Goes handler (asked ++ world.turn place (.advance place)) rest := by
  cases left with
  | done value =>
    simp only [step, hbefore] at hafter
    cases hafter
    rw [turn_of_asks?_eq_none (by simp only [asks?, hbefore]), List.append_nil]
    exact ⟨rfl, hgoes⟩
  | ask request next =>
    rw [jobs_advance_self hbefore] at hafter
    cases hafter
    rw [turn_ask hbefore]
    exact ⟨rfl, hgoes.concat world.state⟩

/-- **What a program asked in a schedule is how far it came.** -/
theorem goes_asked {state : σ} {moves : List (Move κ)} {ticket : κ} {rest : Program I α}
    (hjob : ((start state).run handler program moves).jobs[place]? = some ⟨ticket, rest⟩) :
    (program ticket).Goes handler ((start state).asked handler program place moves) rest := by
  induction moves using List.reverseRecOn generalizing ticket rest with
  | nil => cases hjob
  | append_singleton moves move ih =>
    rw [run_concat] at hjob
    rw [asked_concat]
    generalize hworld : (start state).run handler program moves = world at hjob ih ⊢
    cases move with
    | enter entering =>
      rw [turn_other _ (by simp [Move.place?]), List.append_nil]
      rcases jobs_enter_cases hjob with hold | ⟨rfl, rfl, rfl⟩
      · exact ih hold
      · rw [asked_of_length (by rw [hworld])]
        exact .stays _
    | advance other =>
      by_cases heq : other = place
      · subst heq
        cases hbefore : world.jobs[other]? with
        | none =>
          simp only [step, hbefore] at hjob
          cases hjob
        | some job =>
          obtain ⟨rfl, hgoes⟩ := goes_turn hbefore (ih hbefore) hjob
          exact hgoes
      · rw [jobs_advance_other world (Ne.symm heq)] at hjob
        rw [turn_other _ (by simpa [Move.place?] using heq), List.append_nil]
        exact ih hjob

/-- a program that came to its end has asked what its ending says -/
theorem goes_ending {state : σ} {moves : List (Move κ)} {ending : Ending I κ α}
    (hmem : ending ∈ ((start state).run handler program moves).endings) :
    (program ending.ticket).Goes handler ((start state).asked handler program ending.place moves)
      (.done ending.result) :=
  goes_asked ((run_settled state moves).done ending hmem)

end World

end AttemptLog
