import Sluice.Text.Unprinted

/-!
# Quoted text

How a text is shown inside a message: between double quotes, with a short escape for quote,
backslash, NUL, tab, line feed and carriage return, and with the code point in braces for every
other character that has no printed form of its own.
-/

namespace Sluice.Text

/-- The digits of a number in base sixteen, lower case, without leading zeros. -/
def hexDigits (n : Nat) : List Char :=
  Nat.toDigits 16 n

/-- One character as it stands between the quotes. -/
def quotedChar (c : Char) : List Char :=
  match c with
  | '"' => ['\\', '"']
  | '\\' => ['\\', '\\']
  | '\t' => ['\\', 't']
  | '\n' => ['\\', 'n']
  | '\r' => ['\\', 'r']
  | '\x00' => ['\\', '0']
  | c =>
    if c.toNat < 0x20 || c.toNat = 0x7F || (0x80 ≤ c.toNat && isUnprinted c) then
      ['\\', 'u', '\x7b'] ++ hexDigits c.toNat ++ ['\x7d']
    else [c]

/-- The text between double quotes. -/
def quoted (s : String) : String :=
  String.ofList (['"'] ++ s.toList.flatMap quotedChar ++ ['"'])

end Sluice.Text
