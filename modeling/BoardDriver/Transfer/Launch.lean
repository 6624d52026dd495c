/-
Starting a transfer on an engine that may be synchronous.

Such an engine raises interrupts before the start returns, and each of them is answered there and then, which may start
further transfers. What happened is traced in order: a start first, then for each interrupt all that its answer did, and
the answer itself last.
-/
import BoardDriver.Event.Basic
import BoardDriver.Transfer.Scheduler

namespace BoardDriver

/-- one thing an engine did: it was told to start a transfer, or it raised an interrupt from inside a start and was
answered with an `α` -/
inductive EngineStep (α : Type) where
  | started (start : Start) (result : Except Error Unit)
  | raised (irq : UInt32) (answer : α)

/-- what an operation made an engine do, in order, and the register events that came of it -/
structure EngineActivity (α : Type) where
  steps : List (EngineStep α) := []
  events : List Event := []

/-- one after the other -/
def EngineActivity.append {α : Type} (a b : EngineActivity α) : EngineActivity α :=
  { steps := a.steps ++ b.steps, events := a.events ++ b.events }

instance {α : Type} : Append (EngineActivity α) := ⟨EngineActivity.append⟩

/-- what an engine leaves behind when it has been told to start a transfer -/
structure Launched (σ : Type) where
  result : Except Error Unit
  state : σ
  events : List Event := []
  /-- interrupts it raised, in order -/
  raised : List UInt32 := []

variable {σ α : Type}

def answerAll (answer : UInt32 → σ → α × σ × EngineActivity α) : List UInt32 → σ → σ × EngineActivity α
  | [], s => (s, {})
  | irq :: rest, s =>
    let (reply, s, inner) := answer irq s
    let (s, more) := answerAll answer rest s
    (s, inner ++ { steps := [.raised irq reply] } ++ more)

/-- starts a transfer and answers the interrupts raised meanwhile -/
def kickOff (launch : Start → σ → Launched σ) (answer : UInt32 → σ → α × σ × EngineActivity α) (start : Start) (s : σ) :
    σ × EngineActivity α :=
  let o := launch start s
  let (s, inner) := answerAll answer o.raised o.state
  (s, { steps := [.started start o.result], events := o.events } ++ inner)

def kickOff? (kick : Start → σ → σ × EngineActivity α) : Option Start → σ → σ × EngineActivity α
  | some start, s => kick start s
  | none, s => (s, {})

end BoardDriver
