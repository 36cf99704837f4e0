import Sluice.Toml.Scan

/-!
# Quoted texts

The four kinds of quoted text in a document. Basic texts have escapes, literal texts have none; both
can be written on one line or over several.

* `readBasic` and `readLiteral` read a text on one line after its opening quote.
* `readBasicLines` and `readLiteralLines` read a text over several lines after its opening quotes.
* `encode` is the basic text of some characters.
-/

namespace Sluice.Toml

/-- The character that a letter after a backslash stands for. -/
def escaped? : Char → Option Char
  | 'b' => some '\x08'
  | 't' => some '\t'
  | 'n' => some '\n'
  | 'f' => some '\x0c'
  | 'r' => some '\r'
  | 'e' => some '\x1b'
  | '"' => some '"'
  | '\\' => some '\\'
  | _ => none

/-- The number of hexadecimal digits that follow a letter after a backslash. -/
def codeLength? : Char → Option Nat
  | 'x' => some 2
  | 'u' => some 4
  | 'U' => some 8
  | _ => none

/-- The value of a digit in base sixteen. -/
def hexValue? (c : Char) : Option Nat :=
  if '0' ≤ c ∧ c ≤ '9' then some (c.toNat - 48)
  else if 'a' ≤ c ∧ c ≤ 'f' then some (c.toNat - 87)
  else if 'A' ≤ c ∧ c ≤ 'F' then some (c.toNat - 55)
  else none

/-- The character of a code point. -/
def charOfCode? (code : Nat) : Option Char :=
  if code.isValidChar then some (Char.ofNat code) else none

/-- Where a reader of escapes stands. -/
inductive EscapeState where
  /-- At a character that stands for itself, or at a backslash. -/
  | plain
  /-- After a backslash. -/
  | escape
  /-- At one of the last `left` digits of a code, after digits of the given value. -/
  | code (left value : Nat)
  /-- After a backslash and spaces, where only a line end may follow. -/
  | lineBreak
  /-- After a backslash and a line end, where blanks are skipped. -/
  | skipping

/-- One digit of a code: the characters read so far and the state after it. -/
def codeDigit (read : List Char) (left value : Nat) (c : Char) :
    Option (List Char × EscapeState) := do
  let digit ← hexValue? c
  let value := value * 16 + digit
  if left = 1 then
    let char ← charOfCode? value
    return (char :: read, .plain)
  return (read, .code (left - 1) value)

/-- One character after a backslash: the characters read so far and the state after it. -/
def escapeLetter (read : List Char) (c : Char) : Option (List Char × EscapeState) :=
  match escaped? c, codeLength? c with
  | some char, _ => some (char :: read, .plain)
  | none, some length => some (read, .code length 0)
  | none, none => none

/-- A basic text on one line after its opening quote. `read` holds the characters so far, the last
one first. -/
def readBasicFrom (state : EscapeState) (read : List Char) : Reader (List Char)
  | [] => none
  | c :: rest =>
    match state with
    | .escape =>
      match escapeLetter read c with
      | some (read, state) => readBasicFrom state read rest
      | none => none
    | .code left value =>
      match codeDigit read left value c with
      | some (read, state) => readBasicFrom state read rest
      | none => none
    | _ =>
      if c = '"' then some (read.reverse, rest)
      else if c = '\\' then readBasicFrom .escape read rest
      else if isPlain c then readBasicFrom .plain (c :: read) rest
      else none

/-- A basic text on one line after its opening quote. -/
def readBasic : Reader (List Char) := readBasicFrom .plain []

/-- A literal text on one line after its opening quote. -/
def readLiteralFrom (read : List Char) : Reader (List Char)
  | [] => none
  | c :: rest =>
    if c = '\'' then some (read.reverse, rest)
    else if isPlain c then readLiteralFrom (c :: read) rest
    else none

/-- A literal text on one line after its opening quote. -/
def readLiteral : Reader (List Char) := readLiteralFrom []

/-- The text after one line end. -/
def afterLineEnd : List Char → List Char
  | '\n' :: rest => rest
  | '\r' :: '\n' :: rest => rest
  | cs => cs

/-- A basic text over several lines after its opening quotes. Up to two quotes may stand before the
closing ones. -/
def readBasicLinesFrom (state : EscapeState) (read : List Char) : Reader (List Char)
  | [] => none
  | '\r' :: '\n' :: rest =>
    match state with
    | .plain => readBasicLinesFrom .plain ('\n' :: '\r' :: read) rest
    | .code .. => none
    | _ => readBasicLinesFrom .skipping read rest
  | '"' :: '"' :: '"' :: rest =>
    match state with
    | .escape => readBasicLinesFrom .plain ('"' :: read) ('"' :: '"' :: rest)
    | .code .. | .lineBreak => none
    | _ =>
      match rest with
      | '"' :: '"' :: rest => some (('"' :: '"' :: read).reverse, rest)
      | '"' :: rest => some (('"' :: read).reverse, rest)
      | rest => some (read.reverse, rest)
  | c :: rest =>
    match state with
    | .escape =>
      if c = '\n' then readBasicLinesFrom .skipping read rest
      else if isSpace c then readBasicLinesFrom .lineBreak read rest
      else
        match escapeLetter read c with
        | some (read, state) => readBasicLinesFrom state read rest
        | none => none
    | .code left value =>
      match codeDigit read left value c with
      | some (read, state) => readBasicLinesFrom state read rest
      | none => none
    | .lineBreak =>
      if c = '\n' then readBasicLinesFrom .skipping read rest
      else if isSpace c then readBasicLinesFrom .lineBreak read rest
      else none
    | state =>
      let skips := match state with | .skipping => isSpace c || c = '\n' | _ => false
      if skips then readBasicLinesFrom .skipping read rest
      else if c = '\\' then readBasicLinesFrom .escape read rest
      else if isPlain c || c = '\n' then readBasicLinesFrom .plain (c :: read) rest
      else none

/-- A basic text over several lines after its opening quotes, whose first line end does not count. -/
def readBasicLines : Reader (List Char) := fun cs => readBasicLinesFrom .plain [] (afterLineEnd cs)

/-- A literal text over several lines after its opening quotes. -/
def readLiteralLinesFrom (read : List Char) : Reader (List Char)
  | [] => none
  | '\r' :: '\n' :: rest => readLiteralLinesFrom ('\n' :: '\r' :: read) rest
  | '\'' :: '\'' :: '\'' :: rest =>
    match rest with
    | '\'' :: '\'' :: rest => some (('\'' :: '\'' :: read).reverse, rest)
    | '\'' :: rest => some (('\'' :: read).reverse, rest)
    | rest => some (read.reverse, rest)
  | c :: rest =>
    if isPlain c || c = '\n' then readLiteralLinesFrom (c :: read) rest else none

/-- A literal text over several lines after its opening quotes, whose first line end does not
count. -/
def readLiteralLines : Reader (List Char) := fun cs => readLiteralLinesFrom [] (afterLineEnd cs)

/-! ## Writing -/

/-- The last four digits of a number in base sixteen. -/
def fourDigits (n : Nat) : List Char :=
  [n / 4096 % 16, n / 256 % 16, n / 16 % 16, n % 16].map Nat.digitChar

/-- A character as it stands in a basic text. -/
def encodeChar (c : Char) : List Char :=
  if c = '"' then ['\\', '"']
  else if c = '\\' then ['\\', '\\']
  else if c.toNat < 0x20 || c.toNat = 0x7F then '\\' :: 'u' :: fourDigits c.toNat
  else [c]

/-- The basic text of some characters, without the quotes. -/
def encode (cs : List Char) : List Char := cs.flatMap encodeChar

end Sluice.Toml
