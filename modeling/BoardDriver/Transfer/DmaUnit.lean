/-
A ledger of transfers together with the engine that carries them out.

A start is always the last thing an operation does. A synchronous engine may answer a start with interrupts, and each of
them may retire a request and so start the next one, before the first start returns. Such a chain ends: every link of it
takes a request from the queue, so the length of the queue bounds its depth.
-/
import BoardDriver.Transfer.Engine
import BoardDriver.Transfer.Ledger

namespace BoardDriver

/-- a ledger and the engine it drives -/
structure DmaUnit (ε : Type) extends TransferLedger where
  engine : ε

namespace DmaUnit

variable {ε : Type}

/-- what an operation on a unit leaves behind -/
abbrev Result (ε α : Type) : Type := α × DmaUnit ε × EngineActivity (Except Error Retired)

/-- answers an interrupt: retires the request it reports and has `kick` start the one that takes over the channel -/
def completeWith (kick : Start → DmaUnit ε → DmaUnit ε × EngineActivity (Except Error Retired)) (irq : UInt32)
    (u : DmaUnit ε) : Result ε (Except Error Retired) :=
  match u.toTransferLedger.retire irq with
  | .error e => (.error e, u, {})
  | .ok (done, ledger) =>
    let (u, activity) := kickOff? kick done.next { u with toTransferLedger := ledger }
    (.ok (done.request.retiredOn done.channel), u, activity)

variable [TransferEngine ε]

def launch (start : Start) (u : DmaUnit ε) : Launched (DmaUnit ε) :=
  TransferEngine.launchOn u.engine (fun engine => { u with engine := engine }) start

/-- answers an interrupt while at most `depth` requests wait; with none waiting no start follows -/
def completeWithin : Nat → UInt32 → DmaUnit ε → Result ε (Except Error Retired)
  | 0 => completeWith fun _ u => (u, {})
  | depth + 1 => completeWith (kickOff launch (completeWithin depth))

/-- answers an interrupt -/
def complete (irq : UInt32) (u : DmaUnit ε) : Result ε (Except Error Retired) :=
  completeWithin u.scheduler.pending.length irq u

/-- takes a request on -/
def submit (r : Request) (u : DmaUnit ε) : DmaUnit ε × EngineActivity (Except Error Retired) :=
  let (start, ledger) := u.toTransferLedger.submit r
  kickOff? (kickOff launch complete) start { u with toTransferLedger := ledger }

inductive Op where
  | submit (descriptor : TransferDescriptor) (cookie : Cookie) (watched : Bool)
  | complete (irq : UInt32)
  | enable (channel : Nat) (irq : UInt32)
  | bind (base : UInt32)
  | reset
  deriving DecidableEq, Repr

inductive Answer where
  | submitted (ticket : Ticket) (handle : Option CompletionHandle)
  | retired (r : Retired)
  | bound
  | dropped (count : Nat)
  deriving DecidableEq, Repr

def step (op : Op) (u : DmaUnit ε) : Result ε (Except Error Answer) :=
  match op with
  | .submit descriptor cookie watched =>
    let (request, handle, ledger) := u.toTransferLedger.newRequest descriptor cookie watched
    let (u, activity) := submit request { u with toTransferLedger := ledger }
    (.ok (.submitted request.ticket handle), u, activity)
  | .complete irq =>
    let (answer, u, activity) := u.complete irq
    (answer.map .retired, u, activity)
  | .enable channel irq =>
    let (answer, ledger) := u.toTransferLedger.enable channel irq
    (answer.map fun _ => .bound, { u with toTransferLedger := ledger }, {})
  | .bind base =>
    let (answer, ledger) := u.toTransferLedger.bindInterrupts base
    (answer.map fun _ => .bound, { u with toTransferLedger := ledger }, {})
  | .reset =>
    let (count, ledger) := u.toTransferLedger.reset
    (.ok (.dropped count), { u with toTransferLedger := ledger }, {})

/-- carries out operations in order; what the engine did is told operation by operation -/
def run (u : DmaUnit ε) (ops : List Op) :
    DmaUnit ε × List (Except Error Answer × EngineActivity (Except Error Retired)) :=
  ops.foldl
    (fun (u, log) op =>
      let (answer, u, activity) := u.step op
      (u, log ++ [(answer, activity)]))
    (u, [])

end DmaUnit
end BoardDriver
