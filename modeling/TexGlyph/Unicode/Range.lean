/-!
# Ranges of code points

A property of characters that holds on few, long stretches of code points is kept as the list
of these stretches, both ends included.
-/

namespace TexGlyph

/-- Whether the code point of `c` lies in one of the ranges. -/
def inRanges (ranges : List (Nat × Nat)) (c : Char) : Bool :=
  ranges.any fun r => r.1 ≤ c.toNat && c.toNat ≤ r.2

end TexGlyph
