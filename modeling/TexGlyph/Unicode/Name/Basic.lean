import TexGlyph.Unicode.RunTree

/-!
# Runs of character names

Neighbouring characters often have names that differ in the last word only.  A run of names
keeps the common part once.
-/

namespace TexGlyph

/-- The names of neighbouring characters: a common beginning, which includes its last blank, and
one last word for each character. -/
structure NameRun where
  /-- The first character of the run. -/
  first : Nat
  /-- What all names of the run begin with. -/
  stem : String
  /-- The last words, one for each character from `first` on. -/
  endings : List String

instance : CodeRun NameRun where
  first run := run.first
  size run := run.endings.length

end TexGlyph
