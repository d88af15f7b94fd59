/-!
Programs that ask questions of something outside of them.

A program is a tree: it is done, or it asks a question and goes on in a way that depends on the answer. What answers
is not part of it, so one program can be run against different stores, and two programs can be run against one store
with their questions in any order.

`run_bind` says that running two programs in sequence is running one after the other, and `bind_assoc` that it does not
matter how three programs in sequence are grouped.
-/
namespace AttemptLog

/-- questions, and for each the type of its answers -/
structure Interface where
  Request : Type
  Reply : Request → Type

inductive Program (I : Interface) (α : Type) where
  | done (value : α)
  | ask (request : I.Request) (next : I.Reply request → Program I α)

/-- answers each question, given a state that the answers may depend on and may change -/
abbrev Handler (I : Interface) (σ : Type) := (request : I.Request) → σ → I.Reply request × σ

namespace Program

variable {I J : Interface} {α β σ : Type}

/-- the program that goes on with another one -/
def bind : Program I α → (α → Program I β) → Program I β
  | done value, go => go value
  | ask request next, go => ask request fun reply => (next reply).bind go

instance : Monad (Program I) where
  pure := done
  bind := bind

def query (request : I.Request) : Program I (I.Reply request) := ask request done

def run (handler : Handler I σ) : Program I α → σ → α × σ
  | done value, state => (value, state)
  | ask request next, state =>
    let (reply, state) := handler request state
    (next reply).run handler state

/-- runs a program until its next question is one of some kind, and gives what is left of it -/
def runUntil (handler : Handler I σ) (stops : I.Request → Bool) : Program I α → σ → Program I α × σ
  | done value, state => (done value, state)
  | ask request next, state =>
    if stops request then (ask request next, state)
    else
      let (reply, state) := handler request state
      (next reply).runUntil handler stops state

/-- asks other questions instead, by a program for each -/
def via (answer : (request : I.Request) → Program J (I.Reply request)) : Program I α → Program J α
  | done value => done value
  | ask request next => (answer request).bind fun reply => (next reply).via answer

/-- runs a program and, just before its first question of some kind, another one as a whole -/
def runAgainst (handler rivalHandler : Handler I σ) (stops : I.Request → Bool) (program : Program I α)
    (rival : Program I β) (state : σ) : α × Option β × σ :=
  match program.runUntil handler stops state with
  | (done value, state) => (value, none, state)
  | (rest, state) =>
    let (other, state) := rival.run rivalHandler state
    let (value, state) := rest.run handler state
    (value, some other, state)

theorem bind_assoc {γ : Type} (program : Program I α) (go : α → Program I β) (further : β → Program I γ) :
    (program.bind go).bind further = program.bind fun value => (go value).bind further := by
  induction program with
  | done value => rfl
  | ask request next ih =>
    simp only [bind]
    congr 1
    funext reply
    exact ih reply

theorem run_bind (handler : Handler I σ) (program : Program I α) (go : α → Program I β) (state : σ) :
    (program.bind go).run handler state =
      (go (program.run handler state).1).run handler (program.run handler state).2 := by
  induction program generalizing state with
  | done value => rfl
  | ask request next ih => exact ih _ _

end Program

end AttemptLog
