import Sluice.Data.Basic
import Sluice.Toml.Quoted

/-!
# Numbers, truth values and date-times

The values that are written without quotes and brackets. Digits may be grouped by single underscores.
A date-time is checked and kept as a record with one field, since nothing reads it further.

* `Atom.number?` reads a whole or floating-point number, `Atom.isMoment` checks a date-time.
* `readAtom` reads any of these values off a text.
-/

namespace Sluice.Toml

open Number (Binary64)

namespace Atom

/-- Digits, grouped by single underscores, without the underscores. -/
def ungroup (isDigit : Char → Bool) (afterDigit : Bool) : List Char → Option (List Char)
  | [] => if afterDigit then some [] else none
  | '_' :: cs => if afterDigit then ungroup isDigit false cs else none
  | c :: cs => if isDigit c then (ungroup isDigit true cs).map (c :: ·) else none

/-- The character is a digit in the base. -/
def isDigitIn (base : Nat) (c : Char) : Bool :=
  (hexValue? c).any (· < base)

/-- The number that digits denote in the base. -/
def valueIn (base : Nat) (digits : List Char) : Nat :=
  digits.foldl (fun value c => value * base + (hexValue? c).getD 0) 0

/-- Grouped digits in the base. -/
def digits? (base : Nat) (cs : List Char) : Option (List Char) :=
  ungroup (isDigitIn base) false cs

/-- Decimal digits of which only a single one may be a leading zero. -/
def wholeDigits? (cs : List Char) : Option (List Char) := do
  let digits ← digits? 10 cs
  if digits.head? = some '0' && 1 < digits.length then none else some digits

/-- A sign and the text after it. -/
def splitSign : List Char → Bool × List Char
  | '-' :: cs => (true, cs)
  | '+' :: cs => (false, cs)
  | cs => (false, cs)

/-- A whole number as plain data, which must fit into 128 bits. -/
def integerData (n : Int) : Data :=
  if -0x80000000000000000000000000000000 ≤ n ∧ n ≤ 0xffffffffffffffffffffffffffffffff then .integer n
  else .unusable "integer number overflowed"

/-- A whole number. Only decimal ones have a sign. -/
def integer? : List Char → Option Data
  | '0' :: 'x' :: cs => (digits? 16 cs).map fun ds => integerData (valueIn 16 ds)
  | '0' :: 'o' :: cs => (digits? 8 cs).map fun ds => integerData (valueIn 8 ds)
  | '0' :: 'b' :: cs => (digits? 2 cs).map fun ds => integerData (valueIn 2 ds)
  | cs =>
    let (negative, cs) := splitSign cs
    (wholeDigits? cs).map fun ds =>
      let value : Int := valueIn 10 ds
      integerData (if negative then -value else value)

/-- The exponent after the letter `e`. -/
def exponent? (cs : List Char) : Option Int :=
  let (negative, cs) := splitSign cs
  (digits? 10 cs).map fun ds => if negative then -(valueIn 10 ds : Int) else valueIn 10 ds

/-- A floating-point number as plain data, which must not be too large. -/
def floatData (x : Binary64) : Data :=
  match x with
  | .infinite _ => .unusable "floating-point number overflowed"
  | x => .float x

/-- A floating-point number with a fraction, an exponent or both. -/
def float? (cs : List Char) : Option Data :=
  let (negative, cs) := splitSign cs
  match cs with
  | ['i', 'n', 'f'] => some (.float (.infinite negative))
  | ['n', 'a', 'n'] => some (.float .nan)
  | cs => do
    let isMark (c : Char) : Bool := c = '.' || c = 'e' || c = 'E'
    let (whole, rest) := cs.span (!isMark ·)
    let whole ← wholeDigits? whole
    let (fraction, rest) ←
      match rest with
      | '.' :: rest =>
        let (fraction, rest) := rest.span (!isMark ·)
        (digits? 10 fraction).map (·, rest)
      | rest => if rest.isEmpty then none else some ([], rest)
    let exponent ←
      match rest with
      | [] => some 0
      | c :: rest => if c = 'e' || c = 'E' then exponent? rest else none
    return floatData
      (.ofDecimal negative (valueIn 10 (whole ++ fraction)) (exponent - fraction.length))

/-- A number. -/
def number? (cs : List Char) : Option Data := integer? cs <|> float? cs

/-! ## Date-times -/

/-- A number of exactly `width` digits, and the text after it. -/
def fixed? (width : Nat) (cs : List Char) : Option (Nat × List Char) :=
  let digits := cs.take width
  if digits.length = width && digits.all (isDigitIn 10) then
    some (valueIn 10 digits, cs.drop width)
  else none

/-- The number of days in a month. -/
def daysIn (year month : Nat) : Nat :=
  if month = 2 then
    if (year % 4 = 0 && year % 100 ≠ 0) || year % 400 = 0 then 29 else 28
  else if month = 4 || month = 6 || month = 9 || month = 11 then 30
  else 31

/-- The text after a date. -/
def date? (cs : List Char) : Option (List Char) := do
  let (year, cs) ← fixed? 4 cs
  let (month, cs) ← fixed? 2 (← expect '-' cs)
  let (day, cs) ← fixed? 2 (← expect '-' cs)
  if 1 ≤ month ∧ month ≤ 12 ∧ 1 ≤ day ∧ day ≤ daysIn year month then some cs else none

/-- The text after hours and minutes. -/
def hoursMinutes? (cs : List Char) : Option (List Char) := do
  let (hour, cs) ← fixed? 2 cs
  let (minute, cs) ← fixed? 2 (← expect ':' cs)
  if hour ≤ 23 ∧ minute ≤ 59 then some cs else none

/-- The text after a time. Seconds may be left out. -/
def time? (cs : List Char) : Option (List Char) := do
  let cs ← hoursMinutes? cs
  match cs with
  | ':' :: cs =>
    let (second, cs) ← fixed? 2 cs
    if 60 < second then none
    match cs with
    | '.' :: cs =>
      let (digits, cs) := cs.span (isDigitIn 10)
      if digits.isEmpty then none else some cs
    | cs => some cs
  | cs => some cs

/-- The text is an offset from universal time, or empty. -/
def isOffset : List Char → Bool
  | [] => true
  | ['Z'] | ['z'] => true
  | '+' :: cs | '-' :: cs => hoursMinutes? cs = some []
  | _ => false

/-- The text is a time. -/
def isTime (cs : List Char) : Bool := time? cs = some []

/-- The text is a time with or without an offset. -/
def isOffsetTime (cs : List Char) : Bool := (time? cs).any isOffset

/-- The text is a date. -/
def isDate (cs : List Char) : Bool := date? cs = some []

/-- The text is a date with a time after the letter `T`. -/
def isDateTime (cs : List Char) : Bool :=
  match date? cs with
  | some ('T' :: cs) | some ('t' :: cs) => isOffsetTime cs
  | _ => false

/-- The text is a date-time, a date or a time. -/
def isMoment (cs : List Char) : Bool := isDateTime cs || isDate cs || isTime cs

/-- A date-time as plain data. -/
def momentData (cs : List Char) : Data := .record [("datetime", .text (String.ofList cs))]

/-- The character may stand in a value without quotes. -/
def isAtomChar (c : Char) : Bool :=
  ('0' ≤ c && c ≤ '9') || ('a' ≤ c && c ≤ 'z') || ('A' ≤ c && c ≤ 'Z') ||
    c = '+' || c = '-' || c = '.' || c = '_' || c = ':'

end Atom

open Atom in
/-- A value without quotes and brackets. A date and a time may stand apart by one space. -/
def readAtom : Reader Data := fun cs =>
  let (atom, rest) := cs.span isAtomChar
  match atom with
  | ['t', 'r', 'u', 'e'] => some (.boolean true, rest)
  | ['f', 'a', 'l', 's', 'e'] => some (.boolean false, rest)
  | atom =>
    match number? atom with
    | some data => some (data, rest)
    | none =>
      match isDate atom, rest with
      | true, ' ' :: spaced =>
        let (time, after) := spaced.span isAtomChar
        if isOffsetTime time then some (momentData (atom ++ ' ' :: time), after)
        else some (momentData atom, rest)
      | _, _ => if isMoment atom then some (momentData atom, rest) else none

end Sluice.Toml
