import AttemptLog.Program
import Mathlib.Tactic
/-!
What a program asks and is told while it runs.

The dialogue of a run has the questions of some kind in their order, each with its reply. `Program.Says` states a
property of the dialogue and the result whatever the replies are, by recursion over the program and all of them;
`Says.dialogue` is what it tells about a run. `Repeats` is the form of a dialogue in which something is done again as
long as its failures pass.
-/
namespace AttemptLog

/-- a question and the reply to it -/
structure Told (I : Interface) where
  request : I.Request
  reply : I.Reply request

namespace Program

variable {I : Interface} {σ α β : Type} {heard : I.Request → Bool}

/-- the questions of some kind that a program asks, with the replies -/
def dialogue (heard : I.Request → Bool) (handler : Handler I σ) : Program I α → σ → List (Told I)
  | done _, _ => []
  | ask request next, state =>
    let (reply, state) := handler request state
    let rest := (next reply).dialogue heard handler state
    if heard request then ⟨request, reply⟩ :: rest else rest

/-- does a property hold of the dialogue and the result of a program, whatever the replies are -/
def Says (heard : I.Request → Bool) : Program I α → (List (Told I) → α → Prop) → Prop
  | done value, property => property [] value
  | ask request next, property =>
    ∀ reply, (next reply).Says heard fun rest value =>
      property (if heard request then ⟨request, reply⟩ :: rest else rest) value

theorem Says.mono {program : Program I α} {strong weak : List (Told I) → α → Prop} (h : program.Says heard strong)
    (himp : ∀ talk value, strong talk value → weak talk value) : program.Says heard weak := by
  induction program generalizing strong weak with
  | done value => exact himp [] value h
  | ask request next ih =>
    intro reply
    exact ih reply (h reply) fun rest value hstrong => himp _ value hstrong

theorem says_ask {request : I.Request} {next : I.Reply request → Program I α} {property : List (Told I) → α → Prop}
    (hheard : heard request = true) :
    (ask request next).Says heard property ↔
      ∀ reply, (next reply).Says heard fun rest value => property (⟨request, reply⟩ :: rest) value := by
  simp only [Says, hheard, ite_true]

theorem says_ask_unheard {request : I.Request} {next : I.Reply request → Program I α}
    {property : List (Told I) → α → Prop} (hheard : heard request = false) :
    (ask request next).Says heard property ↔ ∀ reply, (next reply).Says heard property := by
  simp only [Says, hheard, Bool.false_eq_true, ite_false]

/-- **What one program after another says** is what the first one says, and then the second one. -/
theorem says_bind {program : Program I α} {go : α → Program I β} {property : List (Told I) → β → Prop} :
    (program.bind go).Says heard property ↔
      program.Says heard fun talk value => (go value).Says heard fun rest result => property (talk ++ rest) result := by
  induction program generalizing property with
  | done value => exact Iff.rfl
  | ask request next ih =>
    cases hheard : heard request with
    | true =>
      simp only [bind, says_ask hheard, ih]
      exact Iff.rfl
    | false => simp only [bind, says_ask_unheard hheard, ih]

theorem says_true (program : Program I α) : program.Says heard fun _ _ => True := by
  induction program with
  | done value => trivial
  | ask request next ih => exact fun reply => ih reply

/-- it makes no difference how a program goes on after a value that it never comes to -/
theorem Says.bind_congr {program : Program I α} {go other : α → Program I β}
    (h : program.Says heard fun _ value => go value = other value) : program.bind go = program.bind other := by
  induction program with
  | done value => exact h
  | ask request next ih => exact congrArg (ask request) (funext fun reply => ih reply (h reply))

/-- what a program says, it says in each run -/
theorem Says.dialogue {program : Program I α} {property : List (Told I) → α → Prop} (h : program.Says heard property)
    (handler : Handler I σ) (state : σ) :
    property (program.dialogue heard handler state) (program.run handler state).1 := by
  induction program generalizing property state with
  | done value => exact h
  | ask request next ih => exact ih _ (h _) _

end Program

/-! ## What is done again -/

/-- something is done until it succeeds, or fails in a way that does not pass, or has been done again `most` times;
nothing but the last time tells the result -/
def Repeats {τ ε α : Type} (once : List τ → Except ε α → Prop) (passes : ε → Prop) (most : Nat) (talk : List τ)
    (result : Except ε α) : Prop :=
  ∃ (failed : List (List τ × ε)) (last : List τ),
    talk = (failed.map Prod.fst).flatten ++ last ∧ failed.length ≤ most ∧
      (∀ before ∈ failed, once before.1 (.error before.2) ∧ passes before.2) ∧ once last result ∧
      ∀ error, result = .error error → passes error → failed.length = most

namespace Repeats

variable {τ ε α : Type} {once : List τ → Except ε α → Prop} {passes : ε → Prop} {most : Nat} {talk rest : List τ}
  {result : Except ε α}

/-- it is done once, and the result stands -/
theorem last (honce : once talk result) (hends : ∀ error, result = .error error → ¬ passes error) :
    Repeats once passes most talk result := by
  refine ⟨[], talk, rfl, Nat.zero_le most, ?_, honce, ?_⟩
  · intro before hbefore
    exact absurd hbefore List.not_mem_nil
  · intro error herror hpasses
    exact absurd hpasses (hends error herror)

/-- it is done once, since it cannot be done again -/
theorem only (honce : once talk result) : Repeats once passes 0 talk result := by
  refine ⟨[], talk, rfl, Nat.le_refl 0, ?_, honce, fun error herror hpasses => rfl⟩
  intro before hbefore
  exact absurd hbefore List.not_mem_nil

/-- it fails in a way that passes, and is done again -/
theorem again {error : ε} (honce : once talk (.error error)) (hpasses : passes error)
    (hrest : Repeats once passes most rest result) : Repeats once passes (most + 1) (talk ++ rest) result := by
  obtain ⟨failed, last, rfl, hmost, hfailed, hlast, hends⟩ := hrest
  refine ⟨(talk, error) :: failed, last, ?_, ?_, ?_, hlast, ?_⟩
  · simp only [List.map_cons, List.flatten_cons, List.append_assoc]
  · exact Nat.succ_le_succ hmost
  · rw [List.forall_mem_cons]
    exact ⟨⟨honce, hpasses⟩, hfailed⟩
  · intro error herror hpasses'
    exact congrArg Nat.succ (hends error herror hpasses')

end Repeats

end AttemptLog
