/-
Numbers as text: the written forms used in messages and listings, and the reader for numbers typed by a user.

- `hex`, `hexPadded`: lower-case hexadecimal with a leading `0x`.
- `parseDigits base limit`: an optional plus sign and a run of digits, read from the left. The first fault met wins:
  a character that is no digit of the base, or a value that reaches `limit`. Nothing wraps.
-/
namespace BoardDriver.Numeral

/-- shortest lower-case hexadecimal form, led by `0x` -/
def hex (n : Nat) : String :=
  "0x" ++ String.ofList (Nat.toDigits 16 n)

/-- hexadecimal form filled with zeros to `width` characters, the leading `0x` counted -/
def hexPadded (width n : Nat) : String :=
  "0x" ++ String.ofList ((Nat.toDigits 16 n).leftpad (width - 2) '0')

/-- text moved to the right edge of a column of `width` characters -/
def alignRight (width : Nat) (s : String) : String :=
  String.ofList (s.toList.leftpad width ' ')

/-- why a text is no number -/
inductive Fault where
  | empty
  | invalidDigit
  | tooLarge
  | tooSmall
  deriving DecidableEq, Repr

def Fault.message : Fault → String
  | .empty => "cannot parse integer from empty string"
  | .invalidDigit => "invalid digit found in string"
  | .tooLarge => "number too large to fit in target type"
  | .tooSmall => "number too small to fit in target type"

/-- value of a character as a digit of `base`; letters of either case follow the decimal digits -/
def digitValue? (base : Nat) (c : Char) : Option Nat :=
  let v :=
    if '0' ≤ c ∧ c ≤ '9' then c.toNat - '0'.toNat
    else if 'a' ≤ c ∧ c ≤ 'z' then c.toNat - 'a'.toNat + 10
    else if 'A' ≤ c ∧ c ≤ 'Z' then c.toNat - 'A'.toNat + 10
    else base
  if v < base then some v else none

/-- reads a run of digits on top of the value `acc` of those already read -/
def readDigits (base limit : Nat) : Nat → List Char → Except Fault Nat
  | acc, [] => .ok acc
  | acc, c :: rest =>
    match digitValue? base c with
    | none => .error .invalidDigit
    | some d => if acc * base + d < limit then readDigits base limit (acc * base + d) rest else .error .tooLarge

/-- reads a non-empty run of digits after an optional plus sign, as a value below `limit` -/
def parseDigits (base limit : Nat) : List Char → Except Fault Nat
  | [] => .error .empty
  | ['+'] => .error .invalidDigit
  | '+' :: digits => readDigits base limit 0 digits
  | digits => readDigits base limit 0 digits

/-- reads a decimal number with an optional sign, as a value of at least `-limit` and below `limit` -/
def parseSigned (limit : Nat) : List Char → Except Fault Int
  | ['-'] => .error .invalidDigit
  | '-' :: digits =>
    match readDigits 10 (limit + 1) 0 digits with
    | .ok n => .ok (-(n : Int))
    | .error .tooLarge => .error .tooSmall
    | .error e => .error e
  | digits => (parseDigits 10 limit digits).map fun n => (n : Int)

end BoardDriver.Numeral
