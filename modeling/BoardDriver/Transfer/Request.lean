/-
Requests for transfers, and the handles on which a submitter waits for them.

A handle is an entry of the completion table; it turns complete when the request that carries it is retired, and never
turns back. A request may carry none.
-/
import BoardDriver.Error
import BoardDriver.Event.Basic
import BoardDriver.Transfer.Descriptor

namespace BoardDriver

/-- the completion handles handed out, oldest first, and whether each is complete -/
structure CompletionTable where
  entries : List Bool := []
  deriving DecidableEq, Repr, Inhabited

/-- a completion handle: its entry in the table, and the ticket it waits for -/
structure CompletionHandle where
  entry : Nat
  ticket : Ticket
  deriving DecidableEq, Repr

namespace CompletionTable

def isComplete (t : CompletionTable) (entry : Nat) : Bool :=
  t.entries[entry]?.getD false

def add (t : CompletionTable) : Nat × CompletionTable :=
  (t.entries.length, ⟨t.entries ++ [false]⟩)

/-- turns the entry complete, if a request carries one -/
def signal (t : CompletionTable) : Option Nat → CompletionTable
  | none => t
  | some entry => ⟨t.entries.set entry true⟩

/-- what a wait of at most `patience` answers when nothing happens meanwhile -/
def wait (t : CompletionTable) (h : CompletionHandle) (patience : Duration) : Except Error Ticket :=
  if t.isComplete h.entry then .ok h.ticket else .error (.timeout (min patience.milliseconds (UInt64.size - 1)))

end CompletionTable

structure Request where
  descriptor : TransferDescriptor
  ticket : Ticket
  /-- session that submitted it -/
  cookie : Cookie
  /-- completion entry to signal when it is retired -/
  completion : Option Nat := none
  deriving DecidableEq, Repr, Inhabited

/-- a request that has been retired, and the channel that carried it out -/
structure Retired where
  channel : Nat
  ticket : Ticket
  cookie : Cookie
  descriptor : TransferDescriptor
  deriving DecidableEq, Repr

/-- the report on a request that a channel has carried out -/
def Request.retiredOn (r : Request) (channel : Nat) : Retired :=
  { channel := channel, ticket := r.ticket, cookie := r.cookie, descriptor := r.descriptor }

end BoardDriver
