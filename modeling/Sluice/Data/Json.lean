import Sluice.Data.Basic

/-!
# JSON text

Plain data as JSON, one item a line, with two blanks for each level of nesting.
-/

namespace Sluice.Data.Json

open Number (Binary64)

/-- The digits of a number in base sixteen with four places. -/
def fourDigits (n : Nat) : List Char :=
  let digits := Nat.toDigits 16 n
  List.replicate (4 - digits.length) '0' ++ digits

/-- One character between the quotes of a text. -/
def escape (c : Char) : List Char :=
  match c with
  | '"' => ['\\', '"']
  | '\\' => ['\\', '\\']
  | '\n' => ['\\', 'n']
  | '\r' => ['\\', 'r']
  | '\t' => ['\\', 't']
  | c =>
    if c.toNat = 8 then ['\\', 'b']
    else if c.toNat = 12 then ['\\', 'f']
    else if c.toNat < 32 then ['\\', 'u'] ++ fourDigits c.toNat
    else [c]

/-- A text between quotes. -/
def quote (s : String) : String :=
  String.ofList (['"'] ++ s.toList.flatMap escape ++ ['"'])

/-- A number, or nothing if JSON has no way to write it. -/
def number : Binary64 → String
  | .finite negative significand exponent => Binary64.compactText (.finite negative significand exponent)
  | _ => "null"

/-- The beginning of a line at a level of nesting. -/
def indent (level : Nat) : String :=
  "\n" ++ String.ofList (List.replicate (2 * level) ' ')

/-- Items between brackets, given the level of the brackets. -/
def enclose (opening closing : String) (level : Nat) (items : List String) : String :=
  if items.isEmpty then opening ++ closing
  else
    opening ++ ",".intercalate (items.map (indent (level + 1) ++ ·)) ++ indent level ++ closing

mutual

/-- A value at a level of nesting. -/
def textAt (level : Nat) : Data → String
  | .null => "null"
  | .boolean value => if value then "true" else "false"
  | .integer value => toString value
  | .float value => number value
  | .text value => quote value
  | .list items => enclose "[" "]" level (itemTexts (level + 1) items)
  | .record fields => enclose "\x7b" "\x7d" level (fieldTexts (level + 1) fields)
  | .unusable _ => "null"

/-- The items of a list at a level of nesting. -/
def itemTexts (level : Nat) : List Data → List String
  | [] => []
  | item :: items => textAt level item :: itemTexts level items

/-- The fields of a record at a level of nesting. -/
def fieldTexts (level : Nat) : List (String × Data) → List String
  | [] => []
  | (name, value) :: fields =>
    (quote name ++ ": " ++ textAt level value) :: fieldTexts level fields

end

end Json

/-- The value as JSON. -/
def jsonText (data : Data) : String := Json.textAt 0 data

end Sluice.Data
