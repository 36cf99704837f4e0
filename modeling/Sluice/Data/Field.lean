import Sluice.Data.Fault

/-!
# Reading records

How plain data is read as a record of the library. A record is written as named fields in any order,
of which unknown ones are skipped, or as the list of its fields in the order of their declaration. A
field may have a value that stands in for it when it is absent.

* `Field` is one field with its reader.
* `Field.among` looks a field up by name, `Field.nth` by position.
* `readRecord` reads either form.
-/

namespace Sluice

/-- What kinds of lists a format has. -/
structure ListRule where
  /-- A list must not go on after the last field of a record. -/
  exact : Bool
deriving DecidableEq, Repr

/-- A field of a record. -/
structure Field (α : Type) where
  /-- The name of the field. -/
  name : String
  /-- How the value of the field is read. -/
  read : Data → Except Fault α
  /-- The value that stands in for an absent field. -/
  absent : Option α

namespace Field

variable {α : Type}

/-- The field among named values. -/
def among (field : Field α) (fields : List (String × Data)) : Except Fault α :=
  match fields.lookup field.name, field.absent with
  | some value, _ => field.read value
  | none, some value => .ok value
  | none, none => .error (.missingField field.name)

/-- The field at a position of a list; `whole` describes the list that was expected. -/
def nth (field : Field α) (whole : String) (items : List Data) (index : Nat) : Except Fault α :=
  match items[index]?, field.absent with
  | some value, _ => field.read value
  | none, some value => .ok value
  | none, none => .error (.invalidLength index whole)

/-- The fault in a value of the field. -/
def fault? (field : Field α) (value : Data) : Option Fault :=
  match field.read value with
  | .ok _ => none
  | .error fault => some fault

/-- A field read as part of a record, with the type of its value forgotten. -/
def check (field : Field α) : String × (Data → Option Fault) :=
  (field.name, field.fault?)

end Field

/-- The first fault in named values: the fault in the value of a known field, or an obstacle in any
other value. -/
def firstFault? (checks : List (String × (Data → Option Fault))) (fields : List (String × Data)) :
    Option Fault :=
  fields.findSome? fun (name, value) =>
    match checks.lookup name with
    | some fault? => fault? value
    | none => value.obstacle?.map .unusable

/-- A record in either form. `title` names the record, `checks` are its fields, `named` reads its
named values and `listed` reads the list of its values, given a description of the whole list. -/
def readRecord {α : Type} (rule : ListRule) (title : String)
    (checks : List (String × (Data → Option Fault)))
    (named : List (String × Data) → Except Fault α)
    (listed : String → List Data → Except Fault α) : Data → Except Fault α
  | .record fields =>
    match firstFault? checks fields with
    | some fault => .error fault
    | none => named fields
  | .list items => do
    let value ← listed s!"struct {title} with {checks.length} elements" items
    if rule.exact && checks.length < items.length then
      .error (.invalidLength items.length "fewer elements in array")
    else .ok value
  | found => .error (.mismatch found s!"struct {title}")

/-- A whole number of 64 bits without sign. -/
def readUInt64 : Data → Except Fault UInt64
  | .integer n =>
    if 0 ≤ n ∧ n ≤ 0xffffffffffffffff then .ok (.ofNat n.toNat)
    else if isOf64Bits n then .error (.invalidValue (.integer n) "u64")
    else .error (.invalidType (.integer n) "u64")
  | found => .error (.mismatch found "u64")

/-- A whole number of 64 bits without sign, or nothing. -/
def readOptional : Data → Except Fault (Option UInt64)
  | .null => .ok none
  | found => (readUInt64 found).map some

/-- A text. -/
def readText : Data → Except Fault String
  | .text s => .ok s
  | found => .error (.mismatch found "a string")

/-- A list of values that are read one by one. -/
def readList {α : Type} (read : Data → Except Fault α) : Data → Except Fault (List α)
  | .list items => items.mapM read
  | found => .error (.mismatch found "a sequence")

/-- A number that was written is read as the same number. -/
theorem readUInt64_ofUInt64 (n : UInt64) : readUInt64 (.ofUInt64 n) = .ok n := by
  have h : 0 ≤ (n.toNat : Int) ∧ (n.toNat : Int) ≤ 0xffffffffffffffff := by
    have := n.toNat_lt
    omega
  simp only [Data.ofUInt64, readUInt64, if_pos h, Int.toNat_natCast, UInt64.ofNat_toNat]

/-- A number that may be absent is read as what was written. -/
theorem readOptional_ofOptional (n : Option UInt64) : readOptional (.ofOptional n) = .ok n := by
  cases n with
  | none => rfl
  | some n =>
    change (readUInt64 (.ofUInt64 n)).map some = .ok (some n)
    rw [readUInt64_ofUInt64]
    rfl

end Sluice
