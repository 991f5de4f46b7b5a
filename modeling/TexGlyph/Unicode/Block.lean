/-!
# Blocks of characters

The blocks that decide how a character is spelled: combining marks, Greek letters, and the two
blocks in which the marks of accent commands are expected.
-/

namespace TexGlyph

/-- Whether the character belongs to a block of combining diacritical marks. -/
def isCombiningMark (c : Char) : Bool :=
  let n := c.toNat
  (0x0300 ≤ n && n ≤ 0x036F) || (0x1AB0 ≤ n && n ≤ 0x1AFF) || (0x1DC0 ≤ n && n ≤ 0x1DFF) ||
    (0x20D0 ≤ n && n ≤ 0x20FF) || (0xFE20 ≤ n && n ≤ 0xFE2F)

/-- Whether the character belongs to the block Greek and Coptic. -/
def isGreekBlock (c : Char) : Bool := 0x0370 ≤ c.toNat && c.toNat ≤ 0x03FF

/-- Whether a code point lies in the blocks of the marks that accent commands stand for: the
combining diacritical marks and those for symbols. -/
def isAccentBlock (n : Nat) : Bool := (0x0300 ≤ n && n ≤ 0x036F) || (0x20D0 ≤ n && n ≤ 0x20FF)

end TexGlyph
