/-
What user space may do with a BAR. The rights depend on the mode and on the index of the BAR alone, so they form a
fixed table; a BAR past the table has none.
-/
import BoardDriver.Board.Mode

namespace BoardDriver

/-- a set of rights: read registers, write them, change what events they report -/
structure Rights where
  read : Bool := false
  write : Bool := false
  event : Bool := false
  deriving DecidableEq, Repr

namespace Rights

def none : Rights := {}

def all : Rights := { read := true, write := true, event := true }

def union (a b : Rights) : Rights :=
  { read := a.read || b.read, write := a.write || b.write, event := a.event || b.event }

/-- whether `a` holds every right of `b` -/
def contains (a b : Rights) : Bool :=
  (!b.read || a.read) && (!b.write || a.write) && (!b.event || a.event)

/-- the set as a number: 1 for read, 2 for write, 4 for event -/
def bits (a : Rights) : Nat :=
  a.read.toNat + 2 * a.write.toNat + 4 * a.event.toNat

end Rights

/-- the rights on each BAR of a board, in the order of the BARs -/
def Mode.rights : Mode → List Rights
  | .simulator => List.replicate 6 .all
  | .pcie => { read := true, event := true } :: List.replicate 5 .all
  | .membus => [.all, .all, .none, .none, .none, .none]
  | .fvd => [.all, .all, .none, .all, .none, .none]

inductive AccessKind where
  | read
  | write
  | modify
  | event
  deriving DecidableEq, Repr

namespace AccessKind

/-- the rights an access of this kind takes -/
def rights : AccessKind → Rights
  | read => { read := true }
  | write => { write := true }
  | modify => { read := true, write := true }
  | event => { event := true }

def name : AccessKind → String
  | read => "read"
  | write => "write"
  | modify => "modify"
  | event => "event"

end AccessKind

/-- whether the board lets user space access the BAR in this way -/
def Mode.permits (m : Mode) (bar : Nat) (kind : AccessKind) : Bool :=
  m.rights[bar]?.any fun held => held.contains kind.rights

end BoardDriver
