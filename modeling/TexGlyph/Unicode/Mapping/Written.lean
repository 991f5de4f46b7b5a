import TexGlyph.Text.Blank
import TexGlyph.Text.Hex
import TexGlyph.Unicode.Mapping.Basic

/-!
# The written form of a mapping

A mapping is written as its tag, if it has one, and the code points of its image in hexadecimal,
separated by blanks.  Reading takes any blanks and any way to write the numbers; a first word
that begins with `<` is the tag, whatever follows.
-/

namespace TexGlyph.Mapping

/-- Writes a mapping: every code point has at least four upper-case digits. -/
def text (m : Mapping) : String :=
  " ".intercalate ((m.tag.map Tag.word).toList ++ m.image.map fun c => Hex.upper4 c.toNat)

/-- Reads a mapping; fails if a word after the tag is no code point of a character. -/
def read? (s : String) : Option Mapping :=
  match words s.toList with
  | [] => some ⟨none, []⟩
  | word :: rest =>
    if word.head? = some '<' then
      (rest.mapM Hex.scalar?).map fun image => ⟨some (Tag.ofWord (String.ofList word)), image⟩
    else ((word :: rest).mapM Hex.scalar?).map fun image => ⟨none, image⟩

end TexGlyph.Mapping
