/-!
# Floating-point numbers of 64 bits

A floating-point number as a sign, a significand and a power of two, the nearest such number to a
decimal, and the shortest decimal that reads back as the number. All arithmetic is on whole numbers.
-/

namespace Sluice.Number

/-- A floating-point number. The value of `finite negative m e` is `m * 2 ^ e`, with the sign. -/
inductive Binary64 where
  /-- Not a number. -/
  | nan
  /-- Beyond every number. -/
  | infinite (negative : Bool)
  /-- A number, with a significand below `2 ^ 53` and an exponent from `-1074` to `971`. -/
  | finite (negative : Bool) (significand : Nat) (exponent : Int)
deriving DecidableEq, Repr

/-- The quotient rounded to the nearest whole number, a half to the even one. -/
def roundDiv (numerator denominator : Nat) : Nat :=
  let q := numerator / denominator
  let r := numerator % denominator
  if 2 * r < denominator then q
  else if denominator < 2 * r then q + 1
  else q + q % 2

namespace Binary64

/-- The least exponent of a floating-point number. -/
def minExponent : Int := -1074

/-- The number nearest to the positive quotient, a half to the even significand. -/
def ofQuotient (negative : Bool) (numerator denominator : Nat) : Binary64 :=
  let guess : Int := (Nat.log2 numerator : Int) - (Nat.log2 denominator : Int)
  let fits (e : Int) : Bool :=
    if 0 ≤ e then numerator < Nat.pow 2 53 * denominator * Nat.pow 2 e.toNat
    else numerator * Nat.pow 2 (-e).toNat < Nat.pow 2 53 * denominator
  let start := guess - 53
  let exponent := if fits start then start else if fits (start + 1) then start + 1 else start + 2
  let exponent := max exponent minExponent
  let significand :=
    if 0 ≤ exponent then roundDiv numerator (denominator * Nat.pow 2 exponent.toNat)
    else roundDiv (numerator * Nat.pow 2 (-exponent).toNat) denominator
  let (significand, exponent) :=
    if significand = Nat.pow 2 53 then (Nat.pow 2 52, exponent + 1) else (significand, exponent)
  if 971 < exponent then .infinite negative else .finite negative significand exponent

/-- The number nearest to `digits * 10 ^ exponent`, a half to the even significand. -/
def ofDecimal (negative : Bool) (digits : Nat) (exponent : Int) : Binary64 :=
  let size : Int := (Nat.toDigits 10 digits).length + exponent
  if digits = 0 then .finite negative 0 minExponent
  else if 320 < size then .infinite negative
  else if size < -400 then .finite negative 0 minExponent
  else if 0 ≤ exponent then ofQuotient negative (digits * Nat.pow 10 exponent.toNat) 1
  else ofQuotient negative digits (Nat.pow 10 (-exponent).toNat)

/-- A positive decimal `digits * 10 ^ exponent`. -/
structure Decimal where
  /-- The digits as one number. -/
  digits : Nat
  /-- The power of ten of the last digit. -/
  exponent : Int
deriving DecidableEq, Repr

/-- The multiple of `10 ^ k` nearest to the number, if it reads back as the number. The interval of
decimals that read back reaches half way to the neighbours, and holds its ends if the significand is
even. All quantities are multiples of the common unit `2 ^ (exponent - 2)`. -/
def decimalOnGrid? (significand : Nat) (exponent : Int) (k : Int) : Option Decimal :=
  let value := 4 * significand
  let below := if significand = Nat.pow 2 52 ∧ minExponent < exponent then value - 1 else value - 2
  let above := value + 2
  -- value * scale / grid is the number in units of the grid
  let unit := exponent - 2
  let scale := Nat.pow 2 unit.toNat * Nat.pow 10 (-k).toNat
  let grid := Nat.pow 2 (-unit).toNat * Nat.pow 10 k.toNat
  let inside (d : Nat) : Bool :=
    if significand % 2 = 0 then below * scale ≤ d * grid && d * grid ≤ above * scale
    else below * scale < d * grid && d * grid < above * scale
  let low := value * scale / grid
  let nearest := roundDiv (value * scale) grid
  let other := if nearest = low then low + 1 else low
  if inside nearest && nearest ≠ 0 then some ⟨nearest, k⟩
  else if inside other && other ≠ 0 then some ⟨other, k⟩
  else none

/-- The decimal of fewest digits that reads back as the number, searched from the power of ten
`k` downwards. -/
def shortestFrom (significand : Nat) (exponent : Int) : Nat → Int → Decimal
  | 0, _ => ⟨significand, exponent⟩
  | fuel + 1, k =>
    match decimalOnGrid? significand exponent k with
    | some d => d
    | none => shortestFrom significand exponent fuel (k - 1)

/-- The decimal of fewest digits that reads back as the positive number. -/
def shortest (significand : Nat) (exponent : Int) : Decimal :=
  shortestFrom significand exponent 640 309

/-- A positive decimal written out without an exponent, with a point in every case. -/
def Decimal.positional (d : Decimal) : String :=
  let digits := Nat.toDigits 10 d.digits
  if 0 ≤ d.exponent then
    String.ofList (digits ++ List.replicate d.exponent.toNat '0') ++ ".0"
  else
    let places := (-d.exponent).toNat
    let padded := List.replicate (places + 1 - digits.length) '0' ++ digits
    let (whole, fraction) := padded.splitAt (padded.length - places)
    let fraction := (fraction.reverse.dropWhile (· = '0')).reverse
    String.ofList whole ++ "." ++ (if fraction.isEmpty then "0" else String.ofList fraction)

/-- A positive decimal written out without an exponent if its point falls near its digits, and with
one otherwise: `0.00001` and `1e-6`, `1000000000000000.0` and `1e16`. -/
def Decimal.compact (d : Decimal) : String :=
  let digits := Nat.toDigits 10 d.digits
  let point : Int := digits.length + d.exponent
  if -5 < point ∧ point ≤ 16 then d.positional
  else
    let fraction := digits.drop 1
    String.ofList (digits.take 1) ++
      (if fraction.isEmpty then "" else "." ++ String.ofList fraction) ++ s!"e{point - 1}"

/-- The written form of a number, given that of positive decimals. The decimal is the one of fewest
digits that reads back as the number. -/
def textWith (written : Decimal → String) : Binary64 → String
  | .nan => "NaN"
  | .infinite negative => if negative then "-inf" else "inf"
  | .finite negative significand exponent =>
    (if negative then "-" else "") ++
      (if significand = 0 then "0.0" else written (shortest significand exponent))

/-- The written form without an exponent. -/
def text : Binary64 → String := textWith Decimal.positional

/-- The written form with an exponent where that is shorter. -/
def compactText : Binary64 → String := textWith Decimal.compact

end Binary64

end Sluice.Number
