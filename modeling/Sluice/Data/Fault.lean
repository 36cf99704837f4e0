import Sluice.Data.Basic

/-!
# Faults in plain data

Why a plain value cannot be read as what is expected, and the sentence that says so.
-/

namespace Sluice

open Number (Binary64)

/-- Why a plain value is not what is expected. -/
inductive Fault where
  /-- The value is of another kind. -/
  | invalidType (found : Data) (expected : String)
  /-- The value is of the right kind and outside of the range. -/
  | invalidValue (found : Data) (expected : String)
  /-- A list has too few or too many items. -/
  | invalidLength (length : Nat) (expected : String)
  /-- A record lacks a field. -/
  | missingField (name : String)
  /-- A number is too large to be used. -/
  | unusable (reason : String)
deriving Repr

/-- The whole number has 64 bits, with or without a sign. -/
def isOf64Bits (n : Int) : Bool :=
  decide (-0x8000000000000000 ≤ n ∧ n ≤ 0xffffffffffffffff)

namespace Fault

/-- The kind and content of a value in words, given the written form of floating-point numbers. -/
def describe (floatText : Binary64 → String) : Data → String
  | .null => "null"
  | .boolean value => "boolean `" ++ (if value then "true" else "false") ++ "`"
  | .integer n =>
    "integer `" ++ toString n ++ "`" ++
      (if isOf64Bits n then "" else if n ≤ 0x7fffffffffffffffffffffffffffffff then " as i128" else " as u128")
  | .float x => "floating point `" ++ floatText x ++ "`"
  | .text s => "string " ++ Text.quoted s
  | .list _ => "sequence"
  | .record _ => "map"
  | .unusable reason => reason

/-- The sentence that reports the fault, given the written form of floating-point numbers. -/
def message (floatText : Binary64 → String) : Fault → String
  | .invalidType found expected =>
    "invalid type: " ++ describe floatText found ++ ", expected " ++ expected
  | .invalidValue found expected =>
    "invalid value: " ++ describe floatText found ++ ", expected " ++ expected
  | .invalidLength length expected => s!"invalid length {length}, expected {expected}"
  | .missingField name => "missing field `" ++ name ++ "`"
  | .unusable reason => reason

/-- The fault of a value of the wrong kind. -/
def mismatch (found : Data) (expected : String) : Fault :=
  match found with
  | .unusable reason => .unusable reason
  | found => .invalidType found expected

end Fault

end Sluice
