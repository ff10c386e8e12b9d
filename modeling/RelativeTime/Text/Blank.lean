/-!
White space, by the Unicode property of that name, and the cutting of it from both ends of a text.
-/
namespace RelativeTime.Text

/-- The ranges of the property, both ends included. -/
def blankRanges : List (Nat × Nat) := [
  (0x9, 0xd), (0x20, 0x20), (0x85, 0x85), (0xa0, 0xa0), (0x1680, 0x1680), (0x2000, 0x200a),
  (0x2028, 0x2029), (0x202f, 0x202f), (0x205f, 0x205f), (0x3000, 0x3000)]

/-- Whether a character is white space. -/
def isBlank (c : Char) : Bool :=
  blankRanges.any fun r => r.1 ≤ c.toNat && c.toNat ≤ r.2

/-- Whether a character is white space or one of the four separators of ASCII. -/
def isSpace (c : Char) : Bool :=
  isBlank c || (0x1c ≤ c.toNat && c.toNat ≤ 0x1f)

/-- A text without the characters of a class at its end. -/
def trimEnd (p : Char → Bool) (cs : List Char) : List Char :=
  (cs.reverse.dropWhile p).reverse

/-- A text without the characters of a class at either end. -/
def trim (p : Char → Bool) (cs : List Char) : List Char :=
  trimEnd p (cs.dropWhile p)

end RelativeTime.Text
