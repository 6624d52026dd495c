/-
Quoted text, the form in which a message shows what the user typed: between double quotes, with a backslash before a
quote or a backslash, short names for the common controls, and the number of every other character that has no
visible form of its own.
-/
import BoardDriver.Text.Unprintable

namespace BoardDriver.Text

/-- a character inside quotes -/
def quoteChar (c : Char) : List Char :=
  match c with
  | '\x00' => ['\\', '0']
  | '\t' => ['\\', 't']
  | '\n' => ['\\', 'n']
  | '\r' => ['\\', 'r']
  | '"' => ['\\', '"']
  | '\\' => ['\\', '\\']
  | c =>
    if c.toNat < 0x20 || isUnprintable c then
      ['\\', 'u', '\x7b'] ++ Nat.toDigits 16 c.toNat ++ ['\x7d']
    else [c]

def quoted (s : String) : String :=
  String.ofList ('"' :: s.toList.flatMap quoteChar ++ ['"'])

end BoardDriver.Text
