/-
Deferred publication: interrupt handlers hand events to a bounded queue and go on; one worker publishes them.

The queue has `pool` places. A job that finds them all taken is refused and, if it is an event, counted as lost. The
worker takes the head of the queue, which frees its place, and finishes it before it takes the next. Besides events the
queue carries markers: when the worker comes to a marker, everything queued before it has been published.

`dispatch` and the other operations in the second half run the worker as far as it gets, so what they leave behind does
not hang on timing. A worker may be told to pause: it then stops after the next event.
-/
import BoardDriver.Event.Registry

namespace BoardDriver

/-- what the worker is given to do -/
inductive Job where
  | publish (e : Event)
  | marker (name : Nat)
  deriving DecidableEq, Repr

/-- whether the worker goes on -/
inductive Pace where
  | running
  /-- it stops after the next event -/
  | pausing
  | paused
  deriving DecidableEq, Repr

/-- a queue of jobs and the worker that does them -/
structure Dispatcher where
  /-- places of the queue -/
  pool : Nat
  /-- jobs that wait, oldest first -/
  queue : List Job := []
  /-- job the worker has taken -/
  holding : Option Job := none
  /-- events refused because the queue was full; the counter wraps -/
  lost : UInt64 := 0
  pace : Pace := .running
  deriving DecidableEq, Repr

namespace Dispatcher

def start (pool : Nat) : Except Error Dispatcher :=
  if pool = 0 then .error (.invalidArgument .emptyPool) else .ok { pool := pool }

/-- queues a job if there is a place -/
def offer (d : Dispatcher) (j : Job) : Option Dispatcher :=
  if d.queue.length < d.pool then some { d with queue := d.queue ++ [j] } else none

/-- queues an event, or counts it as lost -/
def accept (d : Dispatcher) (e : Event) : Except Error Unit × Dispatcher :=
  match d.offer (.publish e) with
  | some d => (.ok (), d)
  | none => (.error (.allocationFailure (.poolExhausted d.pool)), { d with lost := d.lost + 1 })

/-- the worker takes the head of the queue -/
def take (d : Dispatcher) : Option Dispatcher :=
  match d.holding, d.queue with
  | none, j :: rest => some { d with queue := rest, holding := some j }
  | _, _ => none

/-- the worker finishes the job it holds; a pausing worker stops after an event -/
def finish (d : Dispatcher) (r : Registry) : Option (Dispatcher × Registry) :=
  match d.holding with
  | none => none
  | some (.publish e) =>
    some ({ d with holding := none, pace := if d.pace = .pausing then .paused else d.pace }, (r.publish e).2)
  | some (.marker _) => some ({ d with holding := none }, r)

/-- lets the worker do at most `jobs` jobs, as many as its pace allows -/
def workOff : Nat → Dispatcher → Registry → Dispatcher × Registry
  | 0, d, r => (d, r)
  | jobs + 1, d, r =>
    if d.pace = .paused then (d, r)
    else
      match (d.take.getD d).finish r with
      | some (d, r) => workOff jobs d r
      | none => (d, r)

/-- lets the worker do all it can -/
def settle (d : Dispatcher) (r : Registry) : Dispatcher × Registry :=
  workOff (d.queue.length + 1) d r

/-- hands an event over; it is published at once unless the worker is paused -/
def dispatch (d : Dispatcher) (e : Event) (r : Registry) : Except Error Unit × Dispatcher × Registry :=
  let (answer, d) := d.accept e
  (answer, d.settle r)

/-- has the worker stop after the next event -/
def hold (d : Dispatcher) : Dispatcher :=
  if d.pace = .running then { d with pace := .pausing } else d

def release (d : Dispatcher) (r : Registry) : Dispatcher × Registry :=
  { d with pace := .running }.settle r

end Dispatcher
end BoardDriver
