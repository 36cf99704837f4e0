/-!
# Durations

A length of time in whole nanoseconds and its written form. The written form uses the largest unit
with a nonzero whole part and as many decimals as the value needs.
-/

namespace Sluice

/-- A length of time. -/
structure Duration where
  /-- The length in nanoseconds. -/
  nanos : Nat
deriving DecidableEq, Repr, Inhabited

namespace Duration

/-- A whole number of seconds. -/
def ofSeconds (seconds : Nat) : Duration := ⟨seconds * 1000000000⟩

/-- A whole number of milliseconds. -/
def ofMillis (millis : Nat) : Duration := ⟨millis * 1000000⟩

/-- The whole seconds in the duration. -/
def seconds (d : Duration) : Nat := d.nanos / 1000000000

/-- The decimals that remain of `rest` when it is written with `width` digits and the zeros at its
end are left out. -/
def decimals (width rest : Nat) : List Char :=
  let digits := Nat.toDigits 10 rest
  let padded := List.replicate (width - digits.length) '0' ++ digits
  (padded.reverse.dropWhile (· = '0')).reverse

/-- `nanos` written in a unit of `10 ^ width` nanoseconds. -/
def inUnit (nanos width : Nat) (unit : String) : String :=
  let whole := toString (nanos / Nat.pow 10 width)
  let rest := nanos % Nat.pow 10 width
  if rest = 0 then whole ++ unit
  else whole ++ "." ++ String.ofList (decimals width rest) ++ unit

/-- The written form: `5s`, `1.5s`, `250ms`, `1.5µs`, `20ns`. -/
def text (d : Duration) : String :=
  if 1000000000 ≤ d.nanos then inUnit d.nanos 9 "s"
  else if 1000000 ≤ d.nanos then inUnit d.nanos 6 "ms"
  else if 1000 ≤ d.nanos then inUnit d.nanos 3 "µs"
  else inUnit d.nanos 0 "ns"

end Duration

end Sluice
