/-
Text that is safe to show on a terminal: what the user typed, without the control characters and without the sequences
that a terminal takes as instructions (colours, titles, character sets, device strings).

`Showing.step` reads one character and says whether it is shown; `visible` keeps the shown ones. Tab, line feed, form
feed and carriage return count as text. A control or escape sequence lets them through, and what follows one of them is
shown as text until a hidden character takes the sequence up again; a character outside ASCII gives the sequence up.
-/
namespace BoardDriver.Text

/-- sequence for the terminal that has begun and not ended, by what may follow -/
inductive ControlSequence where
  /-- after the escape character -/
  | escape
  /-- after the escape character and characters from the space to `/` -/
  | designation
  /-- after `ESC [`: parameters up to a letter -/
  | control
  /-- after `ESC ]`: text up to the bell -/
  | systemCommand
  /-- after `ESC P` -/
  | deviceStart
  /-- after `ESC P` and parameters -/
  | deviceParameters
  /-- after `ESC P` and characters from the space to `/` -/
  | deviceIntermediates
  /-- text of a device string or of a message to the terminal -/
  | body
  deriving DecidableEq, Repr

/-- the escape character, which begins every sequence -/
def escapeChar : Char := '\x1b'

/-- cancel and substitute, which end every sequence -/
def isCancel (c : Char) : Bool := c = '\x18' || c = '\x1a'

/-- the controls that move within text: tab, line feed, form feed, carriage return -/
def isLayout (c : Char) : Bool := c = '\t' || c = '\n' || c = '\x0c' || c = '\r'

/-- characters shown outside of sequences: all but the controls of ASCII, of which the layout is shown -/
def isShown (c : Char) : Bool := isLayout c || (' ' ≤ c && c ≠ '\x7f')

/-- whether byte 0x9C, the 8-bit string terminator, occurs in the character's encoding -/
def holdsTerminator (c : Char) : Bool := (String.utf8EncodeChar c).contains 0x9C

namespace ControlSequence

/-- whether layout characters are shown inside the sequence -/
def showsLayout : ControlSequence → Bool
  | escape | designation | control => true
  | systemCommand | deviceStart | deviceParameters | deviceIntermediates | body => false

/-- the sequence after a character, or none if the character ends it -/
def next (s : ControlSequence) (c : Char) : Option ControlSequence :=
  match s with
  | escape =>
    if ' ' ≤ c ∧ c ≤ '/' then some designation
    else if c = '[' then some control
    else if c = ']' then some systemCommand
    else if c = 'P' then some deviceStart
    else if c = 'X' ∨ c = '^' ∨ c = '_' then some body
    else if '0' ≤ c ∧ c ≤ '~' then none
    else some escape
  | designation => if '0' ≤ c ∧ c ≤ '~' then none else some designation
  | control => if '@' ≤ c ∧ c ≤ '~' then none else some control
  | systemCommand => if c = '\x07' then none else some systemCommand
  | deviceStart =>
    if ' ' ≤ c ∧ c ≤ '/' then some deviceIntermediates
    else if '0' ≤ c ∧ c ≤ '?' then some deviceParameters
    else if '@' ≤ c ∧ c ≤ '~' then some body
    else some deviceStart
  | deviceParameters =>
    if ' ' ≤ c ∧ c ≤ '/' then some deviceIntermediates
    else if '<' ≤ c ∧ c ≤ '~' then some body
    else some deviceParameters
  | deviceIntermediates => if '0' ≤ c ∧ c ≤ '~' then some body else some deviceIntermediates
  | body => if holdsTerminator c then none else some body

end ControlSequence

/-- where the reader of a text stands -/
inductive Showing where
  | plain
  /-- in a sequence, whose characters are hidden -/
  | inside (s : ControlSequence)
  /-- a sequence has begun and a layout character interrupts it -/
  | interrupted (s : ControlSequence)
  deriving DecidableEq, Repr

namespace Showing

/-- after a hidden character that is read by an open sequence -/
def takenBy (s : ControlSequence) (c : Char) : Showing :=
  if c = escapeChar then inside .escape
  else if isCancel c then plain
  else match s.next c with
    | some t => inside t
    | none => plain

/-- reads a character, and says whether it is shown -/
def step (r : Showing) (c : Char) : Showing × Bool :=
  match r with
  | plain => (if c = escapeChar then inside .escape else plain, isShown c)
  | inside s => if s.showsLayout && isLayout c then (interrupted s, true) else (takenBy s c, false)
  | interrupted s =>
    if !isShown c then (takenBy s c, false)
    else (if c < '\x7f' then interrupted s else plain, true)

/-- the characters that are shown, from where the reader stands -/
def shown : Showing → List Char → List Char
  | _, [] => []
  | r, c :: cs =>
    let (r', visible) := r.step c
    if visible then c :: shown r' cs else shown r' cs

end Showing

def visible (s : String) : String := String.ofList (Showing.plain.shown s.toList)

end BoardDriver.Text
