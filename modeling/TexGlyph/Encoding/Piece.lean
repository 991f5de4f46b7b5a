/-!
# Pieces of decoded input

Decoding turns bytes into characters and, where the bytes have no meaning, into a mark for each
sequence that could not be read.  Keeping these marks apart from the characters makes it possible
to tell a replacement from a replacement character that stands in the input.
-/

namespace TexGlyph

/-- What a sequence of bytes was read as. -/
inductive Piece where
  /-- A character. -/
  | scalar (c : Char)
  /-- A sequence without a meaning. -/
  | malformed
deriving DecidableEq, Repr

namespace Piece

/-- The character that stands for a piece in the decoded text: U+FFFD for a malformed
sequence. -/
def char : Piece → Char
  | scalar c => c
  | malformed => '\uFFFD'

/-- The decoded text. -/
def text (pieces : List Piece) : String := String.ofList (pieces.map char)

end Piece

end TexGlyph
