import TexGlyph.Unicode.RunTree

/-!
# Decomposition mappings

A decomposition mapping says which characters a character stands for, and a tag in angle brackets
may say in what way it differs from them.  `Tag` names the sixteen tags of the Unicode Character
Database and leaves room for any other word, because a mapping may also come from outside the
database.
-/

namespace TexGlyph

/-- How a character differs from the characters of its mapping. -/
inductive Tag where
  /-- A font variant. -/
  | font
  /-- A variant that does not break the line. -/
  | noBreak
  /-- An initial form. -/
  | initial
  /-- A medial form. -/
  | medial
  /-- A final form. -/
  | final
  /-- An isolated form. -/
  | isolated
  /-- An encircled form. -/
  | circle
  /-- A superscript. -/
  | super
  /-- A subscript. -/
  | sub
  /-- A form for vertical layout. -/
  | vertical
  /-- A full-width form. -/
  | wide
  /-- A half-width form. -/
  | narrow
  /-- A small form. -/
  | small
  /-- A form in a square. -/
  | square
  /-- A vulgar fraction. -/
  | fraction
  /-- Any other compatibility variant. -/
  | compat
  /-- A tag that the database does not use, as it is written. -/
  | other (word : String)
deriving DecidableEq, Repr

/-- The tag as it is written. -/
def Tag.word : Tag → String
  | font => "<font>"
  | noBreak => "<noBreak>"
  | initial => "<initial>"
  | medial => "<medial>"
  | final => "<final>"
  | isolated => "<isolated>"
  | circle => "<circle>"
  | super => "<super>"
  | sub => "<sub>"
  | vertical => "<vertical>"
  | wide => "<wide>"
  | narrow => "<narrow>"
  | small => "<small>"
  | square => "<square>"
  | fraction => "<fraction>"
  | compat => "<compat>"
  | other word => word

/-- The tags of the database. -/
def Tag.standard : List Tag :=
  [font, noBreak, initial, medial, final, isolated, circle, super, sub, vertical, wide, narrow,
    small, square, fraction, compat]

/-- The tag written as `word`. -/
def Tag.ofWord (word : String) : Tag :=
  (standard.find? (·.word = word)).getD (.other word)

/-- Reading a tag forgets nothing of how it was written. -/
@[simp] theorem Tag.word_ofWord (word : String) : (ofWord word).word = word := by
  rw [ofWord]
  cases h : standard.find? (·.word = word) with
  | none => rfl
  | some tag => simpa using List.find?_some h

/-- What a character stands for. -/
structure Mapping where
  /-- How the character differs from the characters it stands for, if it does. -/
  tag : Option Tag
  /-- The characters it stands for. -/
  image : List Char
deriving DecidableEq, Repr

/-- The mappings of neighbouring characters with the same tag; each image is a list of code
points. -/
structure MappingRun where
  /-- The first character with such a mapping. -/
  first : Nat
  /-- The common tag. -/
  tag : Option Tag
  /-- The images, one for each character from `first` on. -/
  images : List (List Nat)

instance : CodeRun MappingRun where
  first run := run.first
  size run := run.images.length

end TexGlyph
