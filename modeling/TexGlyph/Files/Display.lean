import TexGlyph.Fault

/-!
# Displays

A display takes the bytes that a run shows.  A file is written as a whole or not at all, but a
display takes bytes as they come: when it fails, for want of a reader or of space, it has taken a
beginning of what it was given.
-/

namespace TexGlyph

/-- What takes the bytes that are shown. -/
structure Display where
  /-- What is taken of some bytes, and why no more is. -/
  take : List UInt8 → List UInt8 × Option FileFault
  /-- Bytes are taken in order. -/
  begins : ∀ bytes, (take bytes).1 <+: bytes
  /-- All bytes are taken, unless the display fails. -/
  complete : ∀ bytes, (take bytes).2 = none → (take bytes).1 = bytes

namespace Display

/-- The display that takes everything. -/
def unlimited : Display where
  take bytes := (bytes, none)
  begins := List.prefix_refl
  complete _ _ := rfl

end Display

end TexGlyph
