import Sluice.Toml.Value

/-!
# Documents

A document is a sequence of lines. Each line sets a key, opens a table, or is blank.

* `readLine` is one line as a step of the document under construction.
* `ofText?` is the data that a whole document denotes, if it is a document.
-/

namespace Sluice.Toml

/-- How deep lists and inline tables may be nested. -/
def maxDepth : Nat := 80

/-- The header of a table after its opening bracket. -/
def readHeader : Reader Header := fun cs => do
  match cs with
  | '[' :: rest =>
    let ((path, key), rest) ← readKey (skipSpaces rest)
    let rest ← expect ']' (← expect ']' rest)
    return (⟨path, key, true⟩, rest)
  | rest =>
    let ((path, key), rest) ← readKey (skipSpaces rest)
    return (⟨path, key, false⟩, ← expect ']' rest)

/-- One line: the document after it and the text after it. -/
def readLine (draft : Draft) (cs : List Char) : Option (Draft × List Char) := do
  let cs := skipSpaces cs
  match lineEnd false cs with
  | some rest => return (draft, rest)
  | none =>
    match cs with
    | '[' :: rest =>
      let (header, rest) ← readHeader rest
      return (← draft.enter header, ← lineEnd false rest)
    | cs =>
      let (((path, key), data), rest) ← readPair (readValue maxDepth) cs
      return (← draft.assign path key data, ← lineEnd false rest)

/-- The lines of a document, of which there are at most `fuel`. -/
def readLines : Nat → Draft → List Char → Option Draft
  | _, draft, [] => some draft
  | 0, _, _ => none
  | fuel + 1, draft, cs => do
    let (draft, rest) ← readLine draft cs
    readLines fuel draft rest

/-- The characters of a document without a byte order mark at its start. -/
def skipMark : List Char → List Char
  | '\uFEFF' :: cs => cs
  | cs => cs

/-- The data that a whole document denotes, if it is a document. -/
def ofText? (text : String) : Option Data := do
  let cs := skipMark text.toList
  let draft ← readLines cs.length {} cs
  draft.finish

end Sluice.Toml
