/-!
# Socket addresses

An IP address with a port, read from text and written back. Version 4 addresses are four decimal
octets; version 6 addresses are eight hexadecimal groups in square brackets, optionally with a scope
number after a percent sign. In the written form the first of the longest runs of two or more zero
groups becomes `::`, letters are lower case, and an address that embeds a version 4 address ends in
its four octets.
-/

namespace Sluice.Net

/-- An IP address of either version. -/
inductive IpAddress where
  /-- The four octets of a version 4 address. -/
  | v4 (a b c d : UInt8)
  /-- The eight groups of a version 6 address. -/
  | v6 (groups : Vector UInt16 8)
deriving DecidableEq, Repr

/-- An IP address with a port, and for version 6 the number of its scope, `0` for none. -/
structure SocketAddress where
  /-- The address of the host. -/
  ip : IpAddress
  /-- The port on the host. -/
  port : UInt16
  /-- The scope of a version 6 address. -/
  scope : UInt32 := 0
deriving DecidableEq, Repr

/-! ## Writing -/

/-- A run of consecutive zero groups. -/
structure ZeroRun where
  /-- The index of the first group of the run. -/
  start : Nat
  /-- The number of groups in the run. -/
  length : Nat
deriving DecidableEq, Repr

/-- The first of the longest runs of zeros among the groups from index `i` on, given the run that
ends just before `i` and the longest run so far. -/
def longestZeroRun (i : Nat) (current longest : ZeroRun) : List UInt16 → ZeroRun
  | [] => longest
  | g :: rest =>
    if g = 0 then
      let current :=
        if current.length = 0 then ⟨i, 1⟩ else ⟨current.start, current.length + 1⟩
      longestZeroRun (i + 1) current (if longest.length < current.length then current else longest)
        rest
    else longestZeroRun (i + 1) ⟨0, 0⟩ longest rest

/-- Groups in lower case hexadecimal with colons between them. -/
def groupsText (groups : List UInt16) : String :=
  ":".intercalate (groups.map fun g => String.ofList (Nat.toDigits 16 g.toNat))

/-- Four octets in decimal with dots between them. -/
def octetsText (a b c d : UInt8) : String :=
  s!"{a.toNat}.{b.toNat}.{c.toNat}.{d.toNat}"

/-- The written form of eight groups. -/
def v6Text (groups : List UInt16) : String :=
  match groups with
  | [0, 0, 0, 0, 0, 0xFFFF, high, low] =>
    "::ffff:" ++ octetsText (high >>> 8).toUInt8 high.toUInt8 (low >>> 8).toUInt8 low.toUInt8
  | groups =>
    let run := longestZeroRun 0 ⟨0, 0⟩ ⟨0, 0⟩ groups
    if 1 < run.length then
      groupsText (groups.take run.start) ++ "::" ++ groupsText (groups.drop (run.start + run.length))
    else groupsText groups

/-- The written form of an IP address. -/
def IpAddress.text : IpAddress → String
  | .v4 a b c d => octetsText a b c d
  | .v6 groups => v6Text groups.toList

/-- The written form of a socket address: `127.0.0.1:80`, `[::1]:80`, `[fe80::1%2]:80`. -/
def SocketAddress.text (address : SocketAddress) : String :=
  match address.ip with
  | .v4 .. => s!"{address.ip.text}:{address.port.toNat}"
  | .v6 _ =>
    if address.scope = 0 then s!"[{address.ip.text}]:{address.port.toNat}"
    else s!"[{address.ip.text}%{address.scope.toNat}]:{address.port.toNat}"

/-! ## Reading -/

/-- The value of a digit in base sixteen. -/
def digitValue? (c : Char) : Option Nat :=
  if '0' ≤ c ∧ c ≤ '9' then some (c.toNat - 48)
  else if 'a' ≤ c ∧ c ≤ 'f' then some (c.toNat - 87)
  else if 'A' ≤ c ∧ c ≤ 'F' then some (c.toNat - 55)
  else none

/-- The digits in `base` at the front of the text, and the text after them. -/
def takeDigits (base : Nat) : List Char → List Nat × List Char
  | [] => ([], [])
  | c :: rest =>
    match digitValue? c with
    | some d =>
      if d < base then
        let (digits, after) := takeDigits base rest
        (d :: digits, after)
      else ([], c :: rest)
    | none => ([], c :: rest)

/-- The number that digits in `base` denote. -/
def digitsValue (base : Nat) (digits : List Nat) : Nat :=
  digits.foldl (fun value d => value * base + d) 0

/-- A number in `base` of at most `width` digits that is below `bound`. A second digit after a
leading zero is refused unless `zeros` allows it. -/
def readNumber (base : Nat) (width : Option Nat) (zeros : Bool) (bound : Nat) (text : List Char) :
    Option (Nat × List Char) :=
  let (digits, rest) := takeDigits base text
  let value := digitsValue base digits
  if digits.isEmpty then none
  else if (width.any fun w => w < digits.length) then none
  else if !zeros && digits.head? = some 0 && 1 < digits.length then none
  else if value < bound then some (value, rest)
  else none

/-- The text after the character `c`. -/
def expect (c : Char) : List Char → Option (List Char)
  | [] => none
  | d :: rest => if d = c then some rest else none

/-- Four decimal octets with dots between them. -/
def readOctets (text : List Char) : Option ((UInt8 × UInt8 × UInt8 × UInt8) × List Char) := do
  let octet := readNumber 10 (some 3) false 256
  let (a, text) ← octet text
  let (b, text) ← octet (← expect '.' text)
  let (c, text) ← octet (← expect '.' text)
  let (d, text) ← octet (← expect '.' text)
  return ((a.toUInt8, b.toUInt8, c.toUInt8, d.toUInt8), text)

/-- Two octets as one group. -/
def groupOfOctets (high low : UInt8) : UInt16 :=
  (high.toUInt16 <<< 8) ||| low.toUInt16

/-- What a sequence of groups with colons between them begins with. -/
structure GroupRun where
  /-- The groups read. -/
  groups : List UInt16
  /-- The last two groups were written as octets, which ends the sequence. -/
  endsInOctets : Bool
  /-- The text after the groups. -/
  rest : List Char

/-- At most `room` groups with colons between them; octets take the room of two groups. `first`
says that no colon stands before the next group. -/
def readGroups (first : Bool) : Nat → List Char → GroupRun
  | 0, text => ⟨[], false, text⟩
  | room + 1, text =>
    let start := if first then some text else expect ':' text
    let octets := if 1 ≤ room then start.bind readOctets else none
    match octets with
    | some ((a, b, c, d), rest) => ⟨[groupOfOctets a b, groupOfOctets c d], true, rest⟩
    | none =>
      match start.bind (readNumber 16 (some 4) true 0x10000) with
      | some (g, rest) =>
        let tail := readGroups false room rest
        ⟨g.toUInt16 :: tail.groups, tail.endsInOctets, tail.rest⟩
      | none => ⟨[], false, text⟩

/-- Exactly eight groups. -/
def eightGroups? (groups : List UInt16) : Option (Vector UInt16 8) :=
  if h : groups.toArray.size = 8 then some ⟨groups.toArray, h⟩ else none

/-- The groups of a version 6 address, with at most one `::` for one or more zero groups. -/
def readV6 (text : List Char) : Option (Vector UInt16 8 × List Char) := do
  let head := readGroups true 8 text
  if head.groups.length = 8 then
    return (← eightGroups? head.groups, head.rest)
  if head.endsInOctets then none
  let rest ← expect ':' (← expect ':' head.rest)
  let tail := readGroups true (7 - head.groups.length) rest
  let zeros := List.replicate (8 - head.groups.length - tail.groups.length) 0
  return (← eightGroups? (head.groups ++ zeros ++ tail.groups), tail.rest)

/-- A colon and a port. -/
def readPort (text : List Char) : Option (UInt16 × List Char) := do
  let (port, rest) ← readNumber 10 none true 0x10000 (← expect ':' text)
  return (port.toUInt16, rest)

/-- A version 4 address with a port. -/
def readSocketV4 (text : List Char) : Option (SocketAddress × List Char) := do
  let ((a, b, c, d), rest) ← readOctets text
  let (port, rest) ← readPort rest
  return (⟨.v4 a b c d, port, 0⟩, rest)

/-- A version 6 address in brackets, with an optional scope, and a port. -/
def readSocketV6 (text : List Char) : Option (SocketAddress × List Char) := do
  let (groups, rest) ← readV6 (← expect '[' text)
  let (scope, rest) :=
    match (expect '%' rest).bind (readNumber 10 none true 0x100000000) with
    | some (scope, rest) => (scope, rest)
    | none => (0, rest)
  let (port, rest) ← readPort (← expect ']' rest)
  return (⟨.v6 groups, port, scope.toUInt32⟩, rest)

/-- The address that the whole text denotes. -/
def SocketAddress.ofText? (text : String) : Option SocketAddress :=
  let whole (read : List Char → Option (SocketAddress × List Char)) :=
    match read text.toList with
    | some (address, []) => some address
    | _ => none
  whole readSocketV4 <|> whole readSocketV6

/-- The host address that the whole text denotes. -/
def IpAddress.ofText? (text : List Char) : Option IpAddress :=
  match readOctets text with
  | some ((a, b, c, d), []) => some (.v4 a b c d)
  | _ =>
    match readV6 text with
    | some (groups, []) => some (.v6 groups)
    | _ => none

end Sluice.Net
