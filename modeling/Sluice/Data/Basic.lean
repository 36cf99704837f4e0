import Sluice.Number.Binary64
import Sluice.Text.Quoted

/-!
# Plain data

The values that configuration files and JSON documents are made of, before they are read as records
of the library. A record keeps its fields in ascending order of their names.
-/

namespace Sluice

open Number (Binary64)

/-- A plain value. -/
inductive Data where
  /-- No value. -/
  | null
  /-- A truth value. -/
  | boolean (value : Bool)
  /-- A whole number of any size. -/
  | integer (value : Int)
  /-- A floating-point number. -/
  | float (value : Binary64)
  /-- A text. -/
  | text (value : String)
  /-- Values in order. -/
  | list (items : List Data)
  /-- Values under names. -/
  | record (fields : List (String × Data))
  /-- A number that was written correctly and is too large to be used, for the given reason. -/
  | unusable (reason : String)
deriving Repr, Inhabited

namespace Data

/-- A whole number of 64 bits without sign. -/
def ofUInt64 (n : UInt64) : Data := .integer n.toNat

/-- A whole number that may be absent. -/
def ofOptional : Option UInt64 → Data
  | none => .null
  | some n => ofUInt64 n

mutual

/-- The reason why some part of the value cannot be used, if there is such a part. -/
def obstacle? : Data → Option String
  | .unusable reason => some reason
  | .list items => obstacleInItems? items
  | .record fields => obstacleInFields? fields
  | _ => none

/-- The first reason why one of the values cannot be used. -/
def obstacleInItems? : List Data → Option String
  | [] => none
  | item :: items => item.obstacle? <|> obstacleInItems? items

/-- The first reason why the value of one of the fields cannot be used. -/
def obstacleInFields? : List (String × Data) → Option String
  | [] => none
  | (_, value) :: fields => value.obstacle? <|> obstacleInFields? fields

end

end Data

end Sluice
