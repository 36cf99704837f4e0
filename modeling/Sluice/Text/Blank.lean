/-!
# Blank text

The characters with the Unicode property `White_Space`, and the test that a text holds nothing else.
A name or an address that is blank in this sense counts as absent.
-/

namespace Sluice.Text

/-- The ranges of code points with the property `White_Space`, ends included, in ascending order. -/
def whiteSpaceRanges : List (Nat × Nat) :=
  [(0x09, 0x0D), (0x20, 0x20), (0x85, 0x85), (0xA0, 0xA0), (0x1680, 0x1680), (0x2000, 0x200A),
    (0x2028, 0x2029), (0x202F, 0x202F), (0x205F, 0x205F), (0x3000, 0x3000)]

/-- The character has the property `White_Space`. -/
def isWhiteSpace (c : Char) : Bool :=
  whiteSpaceRanges.any fun (first, last) => first ≤ c.toNat && c.toNat ≤ last

/-- The text is empty or made of white space only. -/
def isBlank (s : String) : Bool :=
  s.toList.all isWhiteSpace

end Sluice.Text
