/-
A subscriber: the filters and the bounded queue of one consumer of events.

An event that passes the filters joins the end of the queue, unless `depth` events already wait; then it is dropped and
counted. Events leave in the order they came.
-/
import BoardDriver.Error
import BoardDriver.Event.Basic

namespace BoardDriver

/-- one consumer of events -/
structure Subscriber where
  /-- its name; transfers with this cookie are its own -/
  id : Cookie
  /-- kinds it receives -/
  enableMask : UInt32 := 0
  /-- interrupt sources it receives -/
  irqMask : UInt32 := 0
  /-- most events that wait -/
  depth : Nat
  /-- events that wait, oldest first -/
  queue : List Event := []
  /-- events lost to a full queue; the counter wraps -/
  dropped : UInt64 := 0
  deriving DecidableEq, Repr

namespace Subscriber

/-- a subscriber that receives nothing yet -/
def fresh (id : Cookie) (depth : Nat) : Subscriber :=
  { id := id, depth := depth }

/-- whether the filters pass what happened -/
def wants (s : Subscriber) (p : Payload) : Bool :=
  s.enableMask &&& p.kind.bit != 0 &&
    match p with
    | .interrupt source => s.irqMask &&& source != 0
    | .dmaDone _ _ cookie => cookie == s.id
    | .registerWrite _ | .registerRead _ => true

def pendingCount (s : Subscriber) : Nat := s.queue.length

def hasRoom (s : Subscriber) : Bool := s.queue.length < s.depth

/-- appends an event, or counts it as dropped -/
def enqueue (s : Subscriber) (e : Event) : Except Error Unit × Subscriber :=
  if s.hasRoom then (.ok (), { s with queue := s.queue ++ [e] })
  else (.error (.queueOverflow s.depth), { s with dropped := s.dropped + 1 })

/-- takes the oldest event and stamps it as delivered -/
def dequeue (s : Subscriber) : Option Event × Subscriber :=
  match s.queue with
  | [] => (none, s)
  | e :: rest => (some e.stampDelivered, { s with queue := rest })

def drain (s : Subscriber) : List Event × Subscriber :=
  (s.queue.map Event.stampDelivered, { s with queue := [] })

/-- whether an event waits; while nobody publishes, waiting for one longer changes nothing -/
def isReadable (s : Subscriber) : Bool := !s.queue.isEmpty

/-- discards every event; answers with the number discarded -/
def clear (s : Subscriber) : Nat × Subscriber :=
  (s.queue.length, { s with queue := [] })

end Subscriber
end BoardDriver
