/-!
# Blanks around a text

Two sets of blanks occur. `isBlank` is the wide one, used for trimming texts: the Unicode property
`White_Space` and the four information separators. `isWhiteSpace` is the property alone, used
around numbers.
-/

namespace TrackedEntity.Text

/-- First and last code point of every stretch of the Unicode property `White_Space`. -/
def whiteSpaceStretches : List (Nat × Nat) := [
  (0x09, 0x0d), (0x20, 0x20), (0x85, 0x85), (0xa0, 0xa0), (0x1680, 0x1680), (0x2000, 0x200a),
  (0x2028, 0x2029), (0x202f, 0x202f), (0x205f, 0x205f), (0x3000, 0x3000)]

/-- The Unicode property `White_Space`. -/
def isWhiteSpace (c : Char) : Bool :=
  whiteSpaceStretches.any fun (first, last) => first ≤ c.toNat && c.toNat ≤ last

/-- White space and the information separators U+001C to U+001F. -/
def isBlank (c : Char) : Bool :=
  isWhiteSpace c || (0x1c ≤ c.toNat && c.toNat ≤ 0x1f)

/-- The characters without a first and a last run of those that `blank` selects. -/
def trimChars (blank : Char → Bool) (cs : List Char) : List Char :=
  ((cs.dropWhile blank).reverse.dropWhile blank).reverse

/-- The text without blanks at its ends. -/
def trim (s : String) : String :=
  String.ofList (trimChars isBlank s.toList)

end TrackedEntity.Text
