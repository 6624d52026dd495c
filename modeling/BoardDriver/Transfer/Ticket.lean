/-
Names of transfers and of sessions.

A ticket is a 31-bit number that names one transfer. Tickets are dealt from one counter that all sessions share; the
counter has 32 bits and wraps, and the top bit of each number dealt is dropped, so a ticket comes back after 2 ^ 31
more.
A cookie names the session that a transfer belongs to.
-/
import BoardDriver.Text.Numeral

namespace BoardDriver

structure Ticket where
  value : UInt32
  deriving DecidableEq, Repr, Inhabited

namespace Ticket

/-- the ticket of a raw number, its top bit dropped -/
def ofRaw (raw : UInt32) : Ticket :=
  ⟨raw &&& 0x7fffffff⟩

def text (t : Ticket) : String :=
  toString t.value.toNat

def compare (a b : Ticket) : Ordering :=
  Ord.compare a.value b.value

/-- how many tickets after `base` this one was dealt -/
def since (t base : Ticket) : Ticket :=
  ofRaw (t.value - base.value)

end Ticket

/-- the counter that tickets are dealt from: the number dealt last -/
structure TicketCounter where
  last : UInt32 := 0
  deriving DecidableEq, Repr, Inhabited

namespace TicketCounter

/-- deals the next ticket -/
def deal (c : TicketCounter) : Ticket × TicketCounter :=
  (Ticket.ofRaw (c.last + 1), ⟨c.last + 1⟩)

end TicketCounter

/-- name of a session, and so of the owner of a transfer -/
structure Cookie where
  value : UInt64
  deriving DecidableEq, Repr, Inhabited

namespace Cookie

def text (c : Cookie) : String :=
  Numeral.hex c.value.toNat

def compare (a b : Cookie) : Ordering :=
  Ord.compare a.value b.value

end Cookie
end BoardDriver
