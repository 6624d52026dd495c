/-
The DMA scheduler: which request runs on which channel, and which ones wait.

The state is a table of channels, a map of the idle ones, and a queue. A request goes to the lowest idle channel, or to
the end of the queue if there is none. An interrupt retires the request of the channel it is bound to; that channel
takes the head of the queue, and becomes idle only if the queue is empty.

The scheduler does not touch the hardware. An operation that puts a request on a channel answers with the `Start` that
the hardware has yet to be told.
-/
import BoardDriver.Bits
import BoardDriver.Board.RegisterMap
import BoardDriver.Transfer.Request

namespace BoardDriver

structure Channel where
  /-- interrupt that reports it is done -/
  irq : Option UInt32 := none
  /-- request it carries out -/
  inProgress : Option Request := none
  deriving DecidableEq, Repr, Inhabited

/-- a transfer that a channel has to be started on -/
structure Start where
  channel : Nat
  ticket : Ticket
  descriptor : TransferDescriptor
  deriving DecidableEq, Repr

/-- the start of a request on a channel -/
def Request.startOn (r : Request) (channel : Nat) : Start :=
  { channel := channel, ticket := r.ticket, descriptor := r.descriptor }

structure Scheduler where
  channels : List Channel
  /-- bit `i` is set while channel `i` is idle -/
  idle : BitVec 32
  /-- requests that wait for a channel, oldest first -/
  pending : List Request := []
  deriving DecidableEq, Repr

/-- what an interrupt that retires a request answers -/
structure Completed where
  channel : Nat
  request : Request
  /-- start of the request that took over the channel -/
  next : Option Start
  deriving DecidableEq, Repr

structure SchedulerStatus where
  channels : Nat
  idle : BitVec 32
  inFlight : Nat
  queued : Nat
  deriving DecidableEq, Repr

def SchedulerStatus.lines (s : SchedulerStatus) : List String :=
  ["DMA channels: " ++ toString s.channels,
   "idle map:     " ++ Numeral.hexPadded 10 s.idle.toNat,
   "in flight:    " ++ toString s.inFlight,
   "queued:       " ++ toString s.queued]

def SchedulerStatus.text (s : SchedulerStatus) : String :=
  "\n".intercalate s.lines

namespace Scheduler

/-- a scheduler of `channels` channels, 32 at most, none bound to an interrupt; of the bits of `idle` only those of
its channels count. A channel that is not idle here holds no request, so it stays out of use until a reset. -/
def fresh (channels : Nat) (idle : BitVec 32) : Scheduler :=
  { channels := List.replicate (min channels maxDmaChannels) {}
    idle := idle &&& Bits.mask (min channels maxDmaChannels) }

def capacity (s : Scheduler) : Nat := s.channels.length

/-- the channel bound to an interrupt -/
def channelOf? (s : Scheduler) (irq : UInt32) : Option Nat :=
  s.channels.findIdx? fun c => c.irq == some irq

def modifyChannel (s : Scheduler) (channel : Nat) (f : Channel → Channel) : Scheduler :=
  { s with channels := s.channels.modify channel f }

/-- puts a request on a channel, or takes it off -/
def assign (s : Scheduler) (channel : Nat) (r : Option Request) : Scheduler :=
  s.modifyChannel channel fun c => { c with inProgress := r }

/-- the request on a channel -/
def running? (s : Scheduler) (channel : Nat) : Option Request :=
  s.channels[channel]?.bind Channel.inProgress

/-- binds a channel to an interrupt, unless another channel is bound to it -/
def enable (s : Scheduler) (channel : Nat) (irq : UInt32) : Except Error Scheduler :=
  match (s.channelOf? irq).filter fun other => other != channel with
  | some other => .error (.invalidArgument (.irqTaken irq other))
  | none =>
    if channel < s.capacity then .ok (s.modifyChannel channel fun c => { c with irq := some irq })
    else .error (.invalidArgument (.noChannel channel))

/-- binds the channels from `channel` on, `count` of them, each to `base` plus its index; the first failure ends it and
keeps what was bound before -/
def bindFrom (base : UInt32) : Nat → Nat → Scheduler → Except Error Unit × Scheduler
  | _, 0, s => (.ok (), s)
  | channel, count + 1, s =>
    if base.toNat + channel < UInt32.size then
      match s.enable channel (base + UInt32.ofNat channel) with
      | .ok s => bindFrom base (channel + 1) count s
      | .error e => (.error e, s)
    else (.error (.invalidArgument .irqOverflow), s)

/-- binds every channel `i` to `base + i` -/
def bindInterrupts (s : Scheduler) (base : UInt32) : Except Error Unit × Scheduler :=
  bindFrom base 0 s.capacity s

/-- takes a request on -/
def submit (s : Scheduler) (r : Request) : Option Start × Scheduler :=
  match Bits.lowest? s.idle with
  | some channel =>
    (some (r.startOn channel),
      { s with idle := Bits.erase s.idle channel }.assign channel (some r))
  | none => (none, { s with pending := s.pending ++ [r] })

/-- retires the request of the channel bound to an interrupt; an interrupt without one changes nothing -/
def complete (s : Scheduler) (irq : UInt32) : Except Error (Completed × Scheduler) :=
  match s.channelOf? irq with
  | none => .error (.spuriousInterrupt irq none)
  | some channel =>
    match s.running? channel with
    | none => .error (.spuriousInterrupt irq (some channel))
    | some request =>
      match s.pending with
      | next :: rest =>
        .ok ({ channel := channel, request := request, next := some (next.startOn channel) },
          { s with pending := rest }.assign channel (some next))
      | [] =>
        .ok ({ channel := channel, request := request, next := none },
          { s with idle := Bits.insert s.idle channel }.assign channel none)

def inFlightCount (s : Scheduler) : Nat :=
  s.channels.countP fun c => c.inProgress.isSome

/-- drops every request, on a channel or waiting, and makes every channel idle; answers with the number dropped -/
def reset (s : Scheduler) : Nat × Scheduler :=
  (s.inFlightCount + s.pending.length,
    { channels := s.channels.map fun c => { c with inProgress := none }
      idle := Bits.mask s.capacity
      pending := [] })

/-- ticket of the request on a channel -/
def inFlight? (s : Scheduler) (channel : Nat) : Option Ticket :=
  (s.running? channel).map Request.ticket

def queued (s : Scheduler) : List Ticket :=
  s.pending.map Request.ticket

def status (s : Scheduler) : SchedulerStatus :=
  { channels := s.capacity, idle := s.idle, inFlight := s.inFlightCount, queued := s.pending.length }

/-- an interrupt that starts another request takes it from the queue -/
theorem pending_of_complete {s t : Scheduler} {irq : UInt32} {c : Completed} (h : s.complete irq = .ok (c, t)) :
    t.pending = s.pending.tail ∧ (c.next.isSome ↔ s.pending ≠ []) := by
  simp only [complete] at h
  split at h
  · simp at h
  split at h
  · simp at h
  split at h <;>
    · simp only [Except.ok.injEq, Prod.mk.injEq] at h
      obtain ⟨rfl, rfl⟩ := h
      simp_all [assign, modifyChannel]

end Scheduler
end BoardDriver
