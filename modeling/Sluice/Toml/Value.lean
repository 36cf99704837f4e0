import Sluice.Toml.Atom
import Sluice.Toml.Table

/-!
# Keys and values

Dotted keys, and values of all kinds. Lists and inline tables may go over several lines, hold
comments and end in a comma. They may be nested up to a fixed depth.

* `readKey` reads a dotted key.
* `readValue depth` reads a value in which lists and inline tables are nested at most `depth` deep.
-/

namespace Sluice.Toml

/-- The character may stand in a key without quotes. -/
def isKeyChar (c : Char) : Bool :=
  ('0' ≤ c && c ≤ '9') || ('a' ≤ c && c ≤ 'z') || ('A' ≤ c && c ≤ 'Z') || c = '_' || c = '-'

/-- A key without dots. -/
def readSimpleKey : Reader String := fun cs =>
  match cs with
  | '"' :: rest => (readBasic rest).map fun (key, rest) => (String.ofList key, rest)
  | '\'' :: rest => (readLiteral rest).map fun (key, rest) => (String.ofList key, rest)
  | cs =>
    let (key, rest) := cs.span isKeyChar
    if key.isEmpty then none else some (String.ofList key, rest)

/-- A dotted key as the keys before the last one and the last one. Spaces may stand around the dots
and after the key. `fuel` bounds the number of dots. -/
def readKeyWithin : Nat → Reader (List String × String)
  | 0, _ => none
  | fuel + 1, cs => do
    let (key, rest) ← readSimpleKey cs
    match skipSpaces rest with
    | '.' :: rest =>
      let ((path, last), rest) ← readKeyWithin fuel (skipSpaces rest)
      return ((key :: path, last), rest)
    | rest => return (([], key), rest)

/-- A dotted key as the keys before the last one and the last one. -/
def readKey : Reader (List String × String) := fun cs => readKeyWithin (cs.length + 1) cs

/-- A dotted key, an equals sign and a value. -/
def readPair (value : Reader Data) : Reader ((List String × String) × Data) := fun cs => do
  let (key, rest) ← readKey cs
  let rest ← expect '=' rest
  let (data, rest) ← value (skipSpaces rest)
  return ((key, data), rest)

/-- Items with commas between them up to the character `close`, after the opening bracket. A comma
may stand after the last item. `fuel` bounds the number of items. -/
def readItems {α : Type} (item : Reader α) (close : Char) : Nat → Reader (List α)
  | 0, _ => none
  | fuel + 1, cs => do
    let cs ← skipBlanks false cs
    match expect close cs with
    | some rest => return ([], rest)
    | none =>
      let (first, rest) ← item cs
      match ← skipBlanks false rest with
      | ',' :: rest =>
        let (items, rest) ← readItems item close fuel rest
        return (first :: items, rest)
      | rest => return ([first], ← expect close rest)

/-- The table that key-value pairs between braces denote. -/
def inlineTable (pairs : List ((List String × String) × Data)) : Option Data :=
  (pairs.foldlM (fun entries ((path, key), data) => assign entries path key data) []).map tableData

/-- A text in any of the four kinds of quotes. -/
def readQuoted : Reader (List Char)
  | '"' :: '"' :: '"' :: rest => readBasicLines rest
  | '"' :: rest => readBasic rest
  | '\'' :: '\'' :: '\'' :: rest => readLiteralLines rest
  | '\'' :: rest => readLiteral rest
  | _ => none

/-- A value in which lists and inline tables are nested at most `depth` deep. -/
def readValue (depth : Nat) : Reader Data := fun cs =>
  match cs with
  | '"' :: _ | '\'' :: _ =>
    (readQuoted cs).map fun (text, rest) => (.text (String.ofList text), rest)
  | '[' :: rest =>
    match depth with
    | 0 => none
    | depth + 1 =>
      (readItems (readValue depth) ']' (rest.length + 1) rest).map fun (items, rest) =>
        (.list items, rest)
  | '\x7b' :: rest =>
    match depth with
    | 0 => none
    | depth + 1 => do
      let (pairs, rest) ← readItems (readPair (readValue depth)) '\x7d' (rest.length + 1) rest
      return (← inlineTable pairs, rest)
  | cs => readAtom cs

end Sluice.Toml
