/-
The books of a DMA controller: the scheduler, the counter that tickets come from, and the completion handles.
-/
import BoardDriver.Transfer.Scheduler

namespace BoardDriver

/-- a scheduler with its ticket counter and its completion handles -/
structure TransferLedger where
  scheduler : Scheduler
  tickets : TicketCounter := {}
  completions : CompletionTable := {}
  deriving DecidableEq, Repr

namespace TransferLedger

/-- a request with a ticket of its own; a watched one carries a completion handle -/
def newRequest (descriptor : TransferDescriptor) (cookie : Cookie) (watched : Bool) (l : TransferLedger) :
    Request × Option CompletionHandle × TransferLedger :=
  let (ticket, tickets) := l.tickets.deal
  let l := { l with tickets := tickets }
  let request : Request := { descriptor := descriptor, ticket := ticket, cookie := cookie }
  if watched then
    let (entry, completions) := l.completions.add
    ({ request with completion := some entry }, some { entry := entry, ticket := ticket },
      { l with completions := completions })
  else (request, none, l)

/-- takes a request on; answers with the start that is due -/
def submit (r : Request) (l : TransferLedger) : Option Start × TransferLedger :=
  let (start, scheduler) := l.scheduler.submit r
  (start, { l with scheduler := scheduler })

/-- retires the request that an interrupt reports and signals its handle -/
def retire (irq : UInt32) (l : TransferLedger) : Except Error (Completed × TransferLedger) :=
  match l.scheduler.complete irq with
  | .error e => .error e
  | .ok (done, scheduler) =>
    .ok (done, { l with scheduler := scheduler, completions := l.completions.signal done.request.completion })

def enable (channel : Nat) (irq : UInt32) (l : TransferLedger) : Except Error Unit × TransferLedger :=
  match l.scheduler.enable channel irq with
  | .error e => (.error e, l)
  | .ok scheduler => (.ok (), { l with scheduler := scheduler })

/-- binds every channel `i` to `base + i` -/
def bindInterrupts (base : UInt32) (l : TransferLedger) : Except Error Unit × TransferLedger :=
  let (answer, scheduler) := l.scheduler.bindInterrupts base
  (answer, { l with scheduler := scheduler })

/-- drops every request; answers with the number dropped -/
def reset (l : TransferLedger) : Nat × TransferLedger :=
  let (count, scheduler) := l.scheduler.reset
  (count, { l with scheduler := scheduler })

end TransferLedger
end BoardDriver
