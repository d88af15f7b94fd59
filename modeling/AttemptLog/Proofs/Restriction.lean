import AttemptLog.Proofs.Interleaving
/-!
Some programs without the others.

A schedule can be restricted to chosen tickets: nobody else comes in, no other program is answered, and what is left
keeps its order (`Move.only`). Places are counted among those who are left (`rank`).

`Owns` says that a part of the state is the business of some questions only, and `run_only` what follows if the chosen
programs ask no others and the other programs none of these: the chosen programs go on alone as they do among the
others, and this part of the state is the same.
-/
namespace AttemptLog

variable {I : Interface} {σ τ κ α : Type}

/-! ## A part of the state -/

/-- is a part of the state the business of these questions: no other question changes it, and what they are answered and
what they make of it depends on nothing else -/
structure Owns (handler : Handler I σ) (part : σ → τ) (own : I.Request → Prop) : Prop where
  other : ∀ request state, ¬ own request → part (handler request state).2 = part state
  reply : ∀ request a b, own request → part a = part b → (handler request a).1 = (handler request b).1
  change : ∀ request a b, own request → part a = part b → part (handler request a).2 = part (handler request b).2

namespace Program

def AsksOnly (kind : I.Request → Prop) : Program I α → Prop
  | .done _ => True
  | .ask request next => kind request ∧ ∀ reply, (next reply).AsksOnly kind

theorem AsksOnly.imp {kind other : I.Request → Prop} (himp : ∀ request, kind request → other request)
    {program : Program I α} (h : program.AsksOnly kind) : program.AsksOnly other := by
  induction program with
  | done value => trivial
  | ask request next ih => exact ⟨himp request h.1, fun reply => ih reply (h.2 reply)⟩

variable {handler : Handler I σ} {part : σ → τ} {own : I.Request → Prop}

/-- a program that asks none of the questions leaves the part as it is -/
theorem run_of_other (howns : Owns handler part own) {program : Program I α}
    (h : program.AsksOnly fun request => ¬ own request) (state : σ) :
    part (program.run handler state).2 = part state := by
  induction program generalizing state with
  | done value => rfl
  | ask request next ih => exact (ih _ (h.2 _) _).trans (howns.other request state h.1)

/-- a program that asks no other questions depends on the part alone -/
theorem run_of_own (howns : Owns handler part own) {program : Program I α} (h : program.AsksOnly own) {a b : σ}
    (hpart : part a = part b) :
    (program.run handler a).1 = (program.run handler b).1 ∧
      part (program.run handler a).2 = part (program.run handler b).2 := by
  induction program generalizing a b with
  | done value => exact ⟨rfl, hpart⟩
  | ask request next ih =>
    have hreply := howns.reply request a b h.1 hpart
    have hchange := howns.change request a b h.1 hpart
    simp only [run]
    rw [hreply]
    exact ih _ (h.2 _) hchange

end Program

/-! ## Chosen tickets -/

/-- how many chosen tickets there are before a place -/
def rank (chosen : κ → Bool) (tickets : List κ) (place : Nat) : Nat := (tickets.take place).countP chosen

theorem rank_of_prefix {chosen : κ → Bool} {front tickets : List κ} (h : front <+: tickets) :
    rank chosen tickets front.length = front.countP chosen := by
  rw [rank, ← List.prefix_iff_eq_take.1 h]

theorem countP_le_rank {chosen : κ → Bool} {front tickets : List κ} (h : front <+: tickets) {place : Nat}
    (hplace : front.length ≤ place) : front.countP chosen ≤ rank chosen tickets place := by
  have htake : front <+: tickets.take place := by
    rw [List.prefix_take_iff]
    exact ⟨h, hplace⟩
  exact htake.sublist.countP_le

namespace Move

/-- a move as it is among the chosen tickets, if it is for one of them -/
def among? (chosen : κ → Bool) (tickets : List κ) : Move κ → Option (Move κ)
  | .enter ticket => if chosen ticket then some (.enter ticket) else none
  | .advance place => if tickets[place]?.any chosen then some (.advance (rank chosen tickets place)) else none

/-- a schedule without the moves that are for other tickets -/
def only (chosen : κ → Bool) (moves : List (Move κ)) : List (Move κ) :=
  moves.filterMap (among? chosen (tickets moves))

end Move

/-- an ending with the place that it has among the chosen tickets -/
def Ending.among (chosen : κ → Bool) (tickets : List κ) (ending : Ending I κ α) : Ending I κ α :=
  { ending with place := rank chosen tickets ending.place }

theorem filter_endingOf (chosen : κ → Bool) (place : Nat) (ticket : κ) (last : Option I.Request) (rest : Program I α) :
    ((endingOf place ticket last rest).filter fun ending => chosen ending.ticket) =
      if chosen ticket then endingOf place ticket last rest else [] := by
  cases rest with
  | ask request next => simp [endingOf]
  | done result => cases hchosen : chosen ticket <;> simp [endingOf, hchosen]

theorem map_among_endingOf (chosen : κ → Bool) (tickets : List κ) (place : Nat) (ticket : κ) (last : Option I.Request)
    (rest : Program I α) :
    (endingOf place ticket last rest).map (Ending.among chosen tickets) =
      endingOf (rank chosen tickets place) ticket last rest := by
  cases rest <;> rfl

namespace World

variable {handler : Handler I σ} {program : κ → Program I α} {part : σ → τ} {own : I.Request → Prop} {chosen : κ → Bool}

/-- does a program ask the questions that it should: the chosen ones only these, the others none of them -/
def MindsItsBusiness (own : I.Request → Prop) (chosen : κ → Bool) (job : Job I κ α) : Prop :=
  job.rest.AsksOnly fun request => own request ↔ chosen job.ticket = true

/-- is one world what is left of another one if only the chosen tickets are looked at -/
structure Shadows (part : σ → τ) (chosen : κ → Bool) (tickets : List κ) (alone whole : World I σ κ α) : Prop where
  part : part alone.state = part whole.state
  jobs : alone.jobs = whole.jobs.filter fun job => chosen job.ticket
  endings : alone.endings =
    (whole.endings.filter fun ending => chosen ending.ticket).map (Ending.among chosen tickets)

theorem length_tickets (world : World I σ κ α) : world.tickets.length = world.jobs.length := List.length_map ..

theorem length_filter_jobs {jobs : List (Job I κ α)} :
    (jobs.filter fun job => chosen job.ticket).length = (jobs.map (·.ticket)).countP chosen := by
  rw [List.countP_map, List.countP_eq_length_filter]
  rfl

theorem step_minds (hprogram : ∀ ticket, MindsItsBusiness own chosen (Job.mk ticket (program ticket)))
    {world : World I σ κ α} (h : ∀ job ∈ world.jobs, MindsItsBusiness own chosen job) (move : Move κ) :
    ∀ job ∈ (world.step handler program move).jobs, MindsItsBusiness own chosen job := by
  intro job hmem
  cases move with
  | enter ticket =>
    rcases List.mem_append.1 hmem with hold | hnew
    · exact h job hold
    · obtain rfl := List.mem_singleton.1 hnew
      exact hprogram ticket
  | advance place =>
    rcases world.step_advance_cases handler program place with hsame | ⟨ticket, request, next, hjob⟩
    · rw [hsame] at hmem
      exact h job hmem
    · rw [step_ask hjob] at hmem
      rcases List.mem_or_eq_of_mem_set hmem with hold | rfl
      · exact h job hold
      · exact (h _ (List.mem_of_getElem? hjob)).2 _

/-- somebody who comes in comes in alone as well, if chosen -/
theorem enter_shadows {tickets : List κ} {alone whole : World I σ κ α} (h : Shadows part chosen tickets alone whole)
    {ticket : κ} (hfront : whole.tickets ++ [ticket] <+: tickets) :
    Shadows part chosen tickets
      (alone.run handler program (Move.among? chosen tickets (.enter ticket)).toList)
      (whole.step handler program (.enter ticket)) := by
  have hplace : rank chosen tickets whole.jobs.length = alone.jobs.length := by
    rw [← length_tickets, rank_of_prefix ((List.prefix_append _ _).trans hfront), h.jobs, length_filter_jobs]
    rfl
  cases hchosen : chosen ticket with
  | true =>
    simp only [Move.among?, hchosen, ite_true, Option.toList_some, run, List.foldl_cons, List.foldl_nil, step]
    refine ⟨h.part, ?_, ?_⟩
    · simp [h.jobs, hchosen]
    · rw [List.filter_append, List.map_append, filter_endingOf, hchosen, if_pos rfl, map_among_endingOf, hplace,
        h.endings]
  | false =>
    simp only [Move.among?, hchosen, Bool.false_eq_true, ite_false, Option.toList_none, run, List.foldl_nil, step]
    refine ⟨h.part, ?_, ?_⟩
    · simp [h.jobs, hchosen]
    · rw [List.filter_append, filter_endingOf, hchosen, if_neg Bool.false_ne_true, List.append_nil, h.endings]

theorem jobs_split (chosen : κ → Bool) {world : World I σ κ α} {tickets : List κ} (hfront : world.tickets <+: tickets)
    {place : Nat} {job : Job I κ α} (hjob : world.jobs[place]? = some job) :
    ∃ front back, world.jobs = front ++ job :: back ∧ front.length = place ∧ tickets[place]? = some job.ticket ∧
      (front.filter fun job => chosen job.ticket).length = rank chosen tickets place := by
  obtain ⟨hplace, rfl⟩ := List.getElem?_eq_some_iff.1 hjob
  have hsplit : world.jobs = world.jobs.take place ++ world.jobs[place] :: world.jobs.drop (place + 1) := by
    rw [List.getElem_cons_drop, List.take_append_drop]
  have hlength : (world.jobs.take place).length = place := List.length_take_of_le (Nat.le_of_lt hplace)
  have hfirst : (world.jobs.take place).map (·.ticket) <+: tickets := by
    rw [List.map_take]
    exact (List.take_prefix _ _).trans hfront
  refine ⟨_, _, hsplit, hlength, ?_, ?_⟩
  · obtain ⟨more, rfl⟩ := hfront
    rw [List.getElem?_append_left (by rwa [length_tickets]), World.tickets, List.getElem?_map, hjob, Option.map_some]
  · rw [length_filter_jobs, ← rank_of_prefix hfirst, List.length_map, hlength]

/-- a chosen program is there alone as well -/
theorem Shadows.job {tickets : List κ} {alone whole : World I σ κ α} (h : Shadows part chosen tickets alone whole)
    (hfront : whole.tickets <+: tickets) {place : Nat} {job : Job I κ α} (hjob : whole.jobs[place]? = some job)
    (hchosen : chosen job.ticket = true) : alone.jobs[rank chosen tickets place]? = some job := by
  obtain ⟨front, back, hjobs, -, -, hrank⟩ := jobs_split chosen hfront hjob
  rw [h.jobs, hjobs, List.filter_append, List.filter_cons, if_pos hchosen, ← hrank]
  simp

/-- nobody is there alone at the place of a program that did not come in -/
theorem Shadows.no_job {tickets : List κ} {alone whole : World I σ κ α} (h : Shadows part chosen tickets alone whole)
    (hfront : whole.tickets <+: tickets) {place : Nat} (hjob : whole.jobs[place]? = none) :
    alone.jobs[rank chosen tickets place]? = none := by
  rw [List.getElem?_eq_none_iff] at hjob ⊢
  rw [← length_tickets] at hjob
  rw [h.jobs, length_filter_jobs]
  exact countP_le_rank hfront hjob

theorem filter_set_jobs (chosen : κ → Bool) {world : World I σ κ α} {tickets : List κ}
    (hfront : world.tickets <+: tickets) {place : Nat} {ticket : κ} {before : Program I α}
    (hjob : world.jobs[place]? = some ⟨ticket, before⟩) (after : Program I α) :
    ((world.jobs.set place ⟨ticket, after⟩).filter fun job => chosen job.ticket) =
      if chosen ticket then (world.jobs.filter fun job => chosen job.ticket).set
        (rank chosen tickets place) ⟨ticket, after⟩
      else world.jobs.filter fun job => chosen job.ticket := by
  obtain ⟨front, back, hjobs, hlength, -, hrank⟩ := jobs_split chosen hfront hjob
  rw [hjobs, ← hlength, List.set_append_right _ _ (Nat.le_refl _), Nat.sub_self, List.set_cons_zero, List.filter_append,
    List.filter_append, List.filter_cons, List.filter_cons, hlength]
  cases hchosen : chosen ticket with
  | true =>
    simp only [ite_true]
    rw [← hrank, List.set_append_right _ _ (Nat.le_refl _), Nat.sub_self, List.set_cons_zero]
  | false => simp only [Bool.false_eq_true, ite_false]

/-- a question of a chosen program is asked alone as well, and one of another program does not matter -/
theorem ask_shadows (howns : Owns handler part own) {tickets : List κ} {alone whole : World I σ κ α}
    (h : Shadows part chosen tickets alone whole) (hfront : whole.tickets <+: tickets) {place : Nat} {ticket : κ}
    {request : I.Request} {next : I.Reply request → Program I α}
    (hjob : whole.jobs[place]? = some ⟨ticket, .ask request next⟩) (hown : own request ↔ chosen ticket = true) :
    Shadows part chosen tickets (alone.run handler program (Move.among? chosen tickets (.advance place)).toList)
      (whole.step handler program (.advance place)) := by
  obtain ⟨-, -, -, -, hticket, -⟩ := jobs_split chosen hfront hjob
  have hjobs := filter_set_jobs chosen hfront hjob
  rw [step_ask hjob]
  cases hchosen : chosen ticket with
  | true =>
    have halone := h.job hfront hjob hchosen
    have hreply := howns.reply request _ _ (hown.2 hchosen) h.part
    simp only [Move.among?, hticket, Option.any_some, hchosen, ite_true, Option.toList_some, run, List.foldl_cons,
      List.foldl_nil]
    rw [step_ask halone, hreply]
    refine ⟨howns.change request _ _ (hown.2 hchosen) h.part, ?_, ?_⟩
    · simp only
      rw [hjobs, hchosen, if_pos rfl, h.jobs]
    · simp only
      rw [List.filter_append, List.map_append, filter_endingOf, hchosen, if_pos rfl, map_among_endingOf, h.endings]
  | false =>
    have hother : ¬ own request := fun hrequest => by simp [hown.1 hrequest] at hchosen
    simp only [Move.among?, hticket, Option.any_some, hchosen, Bool.false_eq_true, ite_false, Option.toList_none, run,
      List.foldl_nil]
    refine ⟨h.part.trans (howns.other request _ hother).symm, ?_, ?_⟩
    · simp only
      rw [hjobs, hchosen, if_neg Bool.false_ne_true, h.jobs]
    · simp only
      rw [List.filter_append, filter_endingOf, hchosen, if_neg Bool.false_ne_true, List.append_nil, h.endings]

/-- a move that is for nobody, or for a program that is done, changes nothing alone either -/
theorem idle_shadows {tickets : List κ} {alone whole : World I σ κ α} (h : Shadows part chosen tickets alone whole)
    (hfront : whole.tickets <+: tickets) {place : Nat}
    (hidle : ∀ job, whole.jobs[place]? = some job → ∃ result, job.rest = .done result) :
    alone.run handler program (Move.among? chosen tickets (.advance place)).toList = alone := by
  simp only [Move.among?]
  split
  · next hchosen =>
    simp only [Option.toList_some, run, List.foldl_cons, List.foldl_nil]
    cases hjob : whole.jobs[place]? with
    | none => simp only [step, h.no_job hfront hjob]
    | some job =>
      obtain ⟨result, hdone⟩ := hidle job hjob
      obtain ⟨-, -, -, -, hticket, -⟩ := jobs_split chosen hfront hjob
      rw [hticket, Option.any_some] at hchosen
      obtain ⟨ticket, rest⟩ := job
      subst hdone
      simp only [step, h.job hfront hjob hchosen]
  · rfl

theorem advance_shadows (howns : Owns handler part own) {tickets : List κ} {alone whole : World I σ κ α}
    (h : Shadows part chosen tickets alone whole) (hminds : ∀ job ∈ whole.jobs, MindsItsBusiness own chosen job)
    (hfront : whole.tickets <+: tickets) (place : Nat) :
    Shadows part chosen tickets (alone.run handler program (Move.among? chosen tickets (.advance place)).toList)
      (whole.step handler program (.advance place)) := by
  cases hjob : whole.jobs[place]? with
  | none =>
    rw [idle_shadows h hfront (by simp [hjob])]
    simpa only [step, hjob] using h
  | some job =>
    obtain ⟨ticket, rest⟩ := job
    cases rest with
    | done result =>
      rw [idle_shadows h hfront (by simp [hjob])]
      simpa only [step, hjob] using h
    | ask request next => exact ask_shadows howns h hfront hjob (hminds _ (List.mem_of_getElem? hjob)).1

theorem run_append (world : World I σ κ α) (moves more : List (Move κ)) :
    world.run handler program (moves ++ more) = (world.run handler program moves).run handler program more :=
  List.foldl_append

/-- **Chosen programs go on alone as they do among others.** Let a part of the state be the business of some
questions, and let the chosen programs ask only these and all other programs none of them. If a schedule is restricted
to the chosen programs, then each of them comes as far as before, the endings are the same in the same order, and so
is this part of the state. -/
theorem run_only (howns : Owns handler part own)
    (hprogram : ∀ ticket, MindsItsBusiness own chosen (Job.mk ticket (program ticket))) (state : σ)
    (moves : List (Move κ)) :
    Shadows part chosen (Move.tickets moves) ((start state).run handler program (Move.only chosen moves))
      ((start state).run handler program moves) := by
  have hkey : ∀ front, front <+: moves →
      Shadows part chosen (Move.tickets moves)
          ((start state).run handler program (front.filterMap (Move.among? chosen (Move.tickets moves))))
          ((start state).run handler program front) ∧
        ∀ job ∈ ((start state).run handler program front).jobs, MindsItsBusiness own chosen job := by
    intro front hfront
    induction front using List.reverseRecOn with
    | nil => exact ⟨⟨rfl, rfl, rfl⟩, fun job hmem => nomatch hmem⟩
    | append_singleton front move ih =>
      obtain ⟨hshadows, hminds⟩ := ih ((List.prefix_append _ _).trans hfront)
      have htickets : ((start state).run handler program front).tickets ++ Move.tickets [move] <+:
          Move.tickets moves := by
        obtain ⟨rest, rfl⟩ := hfront
        rw [tickets_run, Move.tickets_append, Move.tickets_append]
        exact List.prefix_append _ _
      have hlast : [move].filterMap (Move.among? chosen (Move.tickets moves)) =
          (Move.among? chosen (Move.tickets moves) move).toList := by
        cases hmove : Move.among? chosen (Move.tickets moves) move <;> simp [hmove]
      rw [run_concat, List.filterMap_append, run_append, hlast]
      refine ⟨?_, step_minds hprogram hminds move⟩
      cases move with
      | enter ticket => exact enter_shadows hshadows htickets
      | advance place =>
        exact advance_shadows howns hshadows hminds ((List.prefix_append _ _).trans htickets) place
  exact (hkey moves (List.prefix_refl _)).1

end World

end AttemptLog
