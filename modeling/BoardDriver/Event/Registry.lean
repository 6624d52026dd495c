/-
The registry: who is told about events.

A subscriber belongs to whoever made it and is known to the registry by reference only. Its owner may let go of it
without a word; the entry that refers to it is then dead. The same subscriber may be registered more than once and then
gets a copy for each entry.

- `publish` stamps an event, offers a copy to every live entry in order, and drops the dead entries.
- `unregister` drops the entries of an id, and the dead ones with them; it tells whether the list got shorter.
-/
import BoardDriver.Event.Subscriber

namespace BoardDriver

/-- outcome of a publication: how many entries matched, and what became of their copies -/
structure PublishReport where
  matched : Nat := 0
  delivered : Nat := 0
  dropped : Nat := 0
  deriving DecidableEq, Repr

/-- every subscriber ever made, by reference, and the list of entries -/
structure Registry where
  /-- subscriber of each reference; none once its owner has let go of it -/
  subscribers : List (Option Subscriber) := []
  /-- references registered, oldest first -/
  entries : List Nat := []
  deriving DecidableEq, Repr

namespace Registry

/-- the subscriber of a reference, while it is alive -/
def subscriber? (r : Registry) (ref : Nat) : Option Subscriber :=
  r.subscribers[ref]?.join

/-- a new subscriber, not registered yet, and its reference -/
def add (r : Registry) (s : Subscriber) : Nat × Registry :=
  (r.subscribers.length, { r with subscribers := r.subscribers ++ [some s] })

def put (r : Registry) (ref : Nat) (s : Subscriber) : Registry :=
  { r with subscribers := r.subscribers.modify ref fun old => old.map fun _ => s }

/-- lets go of a subscriber; entries that refer to it are dead from now on -/
def forget (r : Registry) (ref : Nat) : Registry :=
  { r with subscribers := r.subscribers.set ref none }

def register (r : Registry) (ref : Nat) : Registry :=
  { r with entries := r.entries ++ [ref] }

/-- whether an entry refers to a subscriber that is alive -/
def isLive (r : Registry) (ref : Nat) : Bool :=
  (r.subscriber? ref).isSome

def liveCount (r : Registry) : Nat :=
  r.entries.countP r.isLive

/-- drops the entries of an id, and the dead ones; tells whether any were dropped -/
def unregister (r : Registry) (id : Cookie) : Bool × Registry :=
  let kept := r.entries.filter fun ref => (r.subscriber? ref).any fun s => s.id != id
  (decide (kept.length < r.entries.length), { r with entries := kept })

/-- offers a copy of an event to one entry -/
def offer (e : Event) (report : PublishReport) (r : Registry) (ref : Nat) : PublishReport × Registry :=
  match r.subscriber? ref with
  | none => (report, r)
  | some s =>
    if s.wants e.payload then
      match s.enqueue e with
      | (.ok (), s) => ({ report with matched := report.matched + 1, delivered := report.delivered + 1 }, r.put ref s)
      | (.error _, s) => ({ report with matched := report.matched + 1, dropped := report.dropped + 1 }, r.put ref s)
    else (report, r)

/-- stamps an event and offers a copy to every live entry -/
def publish (e : Event) (r : Registry) : PublishReport × Registry :=
  let live := r.entries.filter r.isLive
  live.foldl (fun (report, r) ref => offer e.stampProduced report r ref) ({}, { r with entries := live })

def publishAll (r : Registry) (events : List Event) : Registry :=
  events.foldl (fun r e => (publish e r).2) r

end Registry
end BoardDriver
