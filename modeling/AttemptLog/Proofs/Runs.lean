import AttemptLog.Program
import Mathlib.Tactic
/-!
Programs whose questions can be answered in many ways.

A behaviour is a relation between a question, the state before, the answer and the state after. `Runs` says that a
program can come to a result in this way, and `Ensures` that a property holds of every result that it can come to. The
rules for `Ensures` follow the shape of programs, so that what a program ensures is put together from what its parts
ensure.

A handler that follows a behaviour leads programs to where the behaviour leads them (`Runs.run_of_follows`).
-/
namespace AttemptLog

/-- the answers that are possible to a question in a state, each with the state after it -/
abbrev Behaviour (I : Interface) (σ : Type) := (request : I.Request) → σ → I.Reply request → σ → Prop

namespace Program

variable {I : Interface} {σ α β : Type}

/-- a program comes to a result, and leads from a state to another one -/
inductive Runs (behaviour : Behaviour I σ) : Program I α → σ → α → σ → Prop where
  | done (value : α) (state : σ) : Runs behaviour (.done value) state value state
  | ask {request : I.Request} {next : I.Reply request → Program I α} {state between final : σ} {reply : I.Reply request}
    {value : α} (hanswer : behaviour request state reply between)
    (hrest : Runs behaviour (next reply) between value final) :
    Runs behaviour (.ask request next) state value final

theorem Runs.bind {behaviour : Behaviour I σ} {state between final : σ} {program : Program I α} {go : α → Program I β}
    {value : α} {result : β} (hfirst : Runs behaviour program state value between)
    (hgo : Runs behaviour (go value) between result final) : Runs behaviour (program.bind go) state result final := by
  induction hfirst with
  | done value state => exact hgo
  | ask hanswer hrest ih => exact .ask hanswer (ih hgo)

theorem Runs.mono {strong weak : Behaviour I σ} {program : Program I α} {state final : σ} {value : α}
    (h : Runs strong program state value final)
    (himp : ∀ request state reply next, strong request state reply next → weak request state reply next) :
    Runs weak program state value final := by
  induction h with
  | done value state => exact .done value state
  | ask hanswer hrest ih => exact .ask (himp _ _ _ _ hanswer) ih

/-- does a handler give the answers of a behaviour, which sees the states of the handler in its own way -/
def Follows {τ : Type} (handler : Handler I τ) (behaviour : Behaviour I σ) (sees : τ → σ → Prop) : Prop :=
  ∀ request state reply next held, behaviour request state reply next → sees held state →
    (handler request held).1 = reply ∧ sees (handler request held).2 next

theorem Runs.run_of_follows {τ : Type} {handler : Handler I τ} {behaviour : Behaviour I σ} {sees : τ → σ → Prop}
    (hfollows : Follows handler behaviour sees) {program : Program I α} {state final : σ} {value : α}
    (hruns : Runs behaviour program state value final) {held : τ} (hsees : sees held state) :
    (program.run handler held).1 = value ∧ sees (program.run handler held).2 final := by
  induction hruns generalizing held with
  | done value state => exact ⟨rfl, hsees⟩
  | ask hanswer hrest ih =>
    obtain ⟨hreply, hbetween⟩ := hfollows _ _ _ _ _ hanswer hsees
    subst hreply
    exact ih hbetween

theorem via_bind {J : Interface} (answer : (request : I.Request) → Program J (I.Reply request)) (program : Program I α)
    (go : α → Program I β) :
    (program.bind go).via answer = (program.via answer).bind fun value => (go value).via answer := by
  induction program with
  | done value => rfl
  | ask request next ih =>
    simp only [bind, via, bind_assoc]
    congr 1
    funext reply
    exact ih reply

/-- a property holds of every result of a program and the state after it -/
def Ensures (behaviour : Behaviour I σ) (program : Program I α) (state : σ) (property : α → σ → Prop) : Prop :=
  ∀ value final, Runs behaviour program state value final → property value final

variable {behaviour : Behaviour I σ} {state : σ}

@[simp]
theorem ensures_done {value : α} {property : α → σ → Prop} :
    Ensures behaviour (.done value) state property ↔ property value state := by
  constructor
  · intro h
    exact h value state (.done value state)
  · intro h value' final hrun
    cases hrun
    exact h

theorem ensures_ask {request : I.Request} {next : I.Reply request → Program I α} {property : α → σ → Prop} :
    Ensures behaviour (.ask request next) state property ↔
      ∀ reply between, behaviour request state reply between → Ensures behaviour (next reply) between property := by
  constructor
  · intro h reply between hanswer value final hrun
    exact h value final (.ask hanswer hrun)
  · intro h value final hrun
    cases hrun with
    | ask hanswer hrest => exact h _ _ hanswer value final hrest

/-- **What one program after another ensures** is what the first one ensures of the second one. -/
theorem ensures_bind {program : Program I α} {go : α → Program I β} {property : β → σ → Prop} :
    Ensures behaviour (program.bind go) state property ↔
      Ensures behaviour program state fun value between => Ensures behaviour (go value) between property := by
  induction program generalizing state with
  | done value => simp [bind]
  | ask request next ih =>
    simp only [bind, ensures_ask]
    constructor
    · intro h reply between hanswer
      exact (ih reply).1 (h reply between hanswer)
    · intro h reply between hanswer
      exact (ih reply).2 (h reply between hanswer)

theorem Ensures.mono {program : Program I α} {strong weak : α → σ → Prop} (h : Ensures behaviour program state strong)
    (himp : ∀ value final, strong value final → weak value final) : Ensures behaviour program state weak :=
  fun value final hrun => himp value final (h value final hrun)

end Program

end AttemptLog
