/-
Register accesses as values: a step on the state of a bank that succeeds or fails, and tells which events it raised.

A step that fails keeps what it did before it failed: the state it reached and the events it raised. Steps in sequence
stop at the first failure. A step also tells how often it took the lock of a bank, so that what happens under one lock
can be told from the same accesses made one by one.
-/
import BoardDriver.Error
import BoardDriver.Event.Basic

namespace BoardDriver

/-- what a step leaves behind: its answer, the state after it, and the events it raised in order -/
structure Outcome (σ α : Type) where
  result : Except Error α
  state : σ
  events : List Event := []
  /-- times that it took the lock of a bank -/
  locks : Nat := 0

/-- a step on states of type `σ` that answers with an `α` -/
def Action (σ α : Type) : Type := σ → Outcome σ α

namespace Action

variable {σ τ α β : Type}

/-- answers and changes nothing -/
def pure (a : α) : Action σ α := fun s => { result := .ok a, state := s }

/-- fails and changes nothing -/
def fail (e : Error) : Action σ α := fun s => { result := .error e, state := s }

/-- the second step follows the first if the first succeeds -/
def bind (x : Action σ α) (f : α → Action σ β) : Action σ β := fun s =>
  let first := x s
  match first.result with
  | .error e => { result := .error e, state := first.state, events := first.events, locks := first.locks }
  | .ok a =>
    let second := f a first.state
    { second with events := first.events ++ second.events, locks := first.locks + second.locks }

instance : Monad (Action σ) where
  pure := pure
  bind := bind

def raise (p : Payload) : Action σ Unit := fun s =>
  { result := .ok (), state := s, events := [.ofPayload p] }

/-- takes the answer of a check that looks at nothing but its arguments -/
def ofExcept : Except Error α → Action σ α
  | .ok a => pure a
  | .error e => fail e

def get : Action σ σ := fun s => { result := .ok s, state := s }

def set (s : σ) : Action σ Unit := fun _ => { result := .ok (), state := s }

/-- runs the steps in order and stops at the first failure -/
def sequence : List (Action σ Unit) → Action σ Unit
  | [] => pure ()
  | x :: rest => bind x fun _ => sequence rest

/-- runs a step on a part of a larger state -/
def on (part : σ) (put : σ → τ) (x : Action σ α) : Outcome τ α :=
  let o := x part
  { result := o.result, state := put o.state, events := o.events, locks := o.locks }

theorem bind_of_ok {x : Action σ α} {f : α → Action σ β} {s : σ} {a : α} (h : (x s).result = .ok a) :
    bind x f s = { f a (x s).state with
      events := (x s).events ++ (f a (x s).state).events, locks := (x s).locks + (f a (x s).state).locks } := by
  simp only [bind, h]

theorem bind_of_error {x : Action σ α} {f : α → Action σ β} {s : σ} {e : Error} (h : (x s).result = .error e) :
    bind x f s = { result := .error e, state := (x s).state, events := (x s).events, locks := (x s).locks } := by
  simp only [bind, h]

/-- the answer of two steps is put together from their answers -/
theorem result_bind (x : Action σ α) (f : α → Action σ β) (s : σ) :
    (bind x f s).result = (x s).result >>= fun a => (f a (x s).state).result := by
  cases h : (x s).result with
  | error e => rw [bind_of_error h]; rfl
  | ok a => rw [bind_of_ok h]; rfl

/-- a step whose answer is made from that of another step -/
theorem bind_pure (x : Action σ α) (f : α → β) (s : σ) : bind x (fun a => pure (f a)) s =
    { result := (x s).result.map f, state := (x s).state, events := (x s).events, locks := (x s).locks } := by
  cases h : (x s).result with
  | error e => rw [bind_of_error h]; rfl
  | ok a =>
    rw [bind_of_ok h]
    simp only [pure, List.append_nil]
    rfl

end Action
end BoardDriver
