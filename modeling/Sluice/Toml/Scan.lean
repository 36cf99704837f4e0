/-!
# White space, comments and line ends

A document is read from the front of a list of characters. A reader takes what it reads off the list
and gives the rest back, or fails. The whole document is refused as soon as one reader fails, without
a word on why.

* `lineEnd` takes the rest of a line that holds nothing but a comment.
* `skipBlanks` takes spaces, line ends and comments.
-/

namespace Sluice.Toml

/-- A reader of values from the front of a text. -/
abbrev Reader (α : Type) := List Char → Option (α × List Char)

/-- The character is a space or a tab. -/
def isSpace (c : Char) : Bool := c = ' ' || c = '\t'

/-- The character may stand in a text or a comment. -/
def isPlain (c : Char) : Bool := c = '\t' || (0x20 ≤ c.toNat && c.toNat ≠ 0x7F)

/-- The text after its leading spaces. -/
def skipSpaces (cs : List Char) : List Char := cs.dropWhile isSpace

/-- The text after the next line end, which only spaces and a comment may precede. The end of the
document is a line end too. -/
def lineEnd (inComment : Bool) : List Char → Option (List Char)
  | [] => some []
  | '\n' :: rest => some rest
  | '\r' :: '\n' :: rest => some rest
  | c :: rest =>
    if inComment then (if isPlain c then lineEnd true rest else none)
    else if isSpace c then lineEnd false rest
    else if c = '#' then lineEnd true rest
    else none

/-- The text after spaces, line ends and comments. -/
def skipBlanks (inComment : Bool) : List Char → Option (List Char)
  | [] => some []
  | '\n' :: rest => skipBlanks false rest
  | '\r' :: '\n' :: rest => skipBlanks false rest
  | c :: rest =>
    if inComment then (if isPlain c then skipBlanks true rest else none)
    else if isSpace c then skipBlanks false rest
    else if c = '#' then skipBlanks true rest
    else some (c :: rest)

/-- The text after the character `c`. -/
def expect (c : Char) : List Char → Option (List Char)
  | [] => none
  | d :: rest => if d = c then some rest else none

end Sluice.Toml
