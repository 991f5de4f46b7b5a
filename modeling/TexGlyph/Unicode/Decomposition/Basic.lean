import TexGlyph.Text.Quoted
import TexGlyph.Unicode.Mapping.Table
import TexGlyph.Unicode.Mapping.Written

/-!
# Decompositions

A decomposition is a mapping sorted by what can be done with it: font variants, scripts and
fractions have a rendering of their own, a pair without a tag is read as a base with a mark, and
a tag that has no rendering is kept as `unsupported`.
-/

namespace TexGlyph

/-- Whether a script stands above or below the line. -/
inductive Script where
  /-- A superscript. -/
  | super
  /-- A subscript. -/
  | sub
deriving DecidableEq, Repr

/-- A mapping sorted by its tag and its length. -/
inductive Decomposition where
  /-- A font variant of a character. -/
  | font (base : Char)
  /-- A small variant of a character. -/
  | small (base : Char)
  /-- A compatibility variant of a text. -/
  | compat (scalars : List Char)
  /-- A character raised or lowered. -/
  | script (kind : Script) (base : Char)
  /-- A fraction, without its slash. -/
  | fraction (numerator denominator : List Char)
  /-- Two characters without a tag: a base and a mark, as a rule. -/
  | accented (base mark : Char)
  /-- Any other text without a tag. -/
  | canonical (scalars : List Char)
  /-- A tag without a rendering. -/
  | unsupported (tag : String)
deriving DecidableEq, Repr

namespace Decomposition

/-- Whether the character separates the two parts of a fraction. -/
def isFractionSlash (c : Char) : Bool := c = '\u2044' || c = '/'

/-- Sorts a mapping; one with an empty image is none at all. -/
def ofMapping? (m : Mapping) : Option Decomposition :=
  match m.image with
  | [] => none
  | first :: rest =>
    match m.tag with
    | none =>
      match rest with
      | [mark] => some (.accented first mark)
      | _ => some (.canonical m.image)
    | some .font => some (.font first)
    | some .small => some (.small first)
    | some .compat => some (.compat m.image)
    | some .super => some (.script .super first)
    | some .sub => some (.script .sub first)
    | some .fraction =>
      some (.fraction (m.image.takeWhile (!isFractionSlash ·))
        ((m.image.dropWhile (!isFractionSlash ·)).drop 1))
    | some tag => some (.unsupported tag.word)

/-- The decomposition of a character, if it has one. -/
def of? (c : Char) : Option Decomposition := (Mapping.of? c).bind ofMapping?

/-- Reads a decomposition from the written form of a mapping. -/
def read? (s : String) : Option Decomposition := (Mapping.read? s).bind ofMapping?

/-- The characters of a decomposition, in order. -/
def scalars : Decomposition → List Char
  | font base => [base]
  | small base => [base]
  | compat cs => cs
  | script _ base => [base]
  | fraction numerator denominator => numerator ++ denominator
  | accented base mark => [base, mark]
  | canonical cs => cs
  | unsupported _ => []

/-- The form in which messages show a decomposition. -/
def quoted : Decomposition → String
  | font base => "Font(" ++ Quoted.char base ++ ")"
  | small base => "Small(" ++ Quoted.char base ++ ")"
  | compat cs => "Compat(" ++ Quoted.chars cs ++ ")"
  | script .super base => "Modifier(Super, " ++ Quoted.char base ++ ")"
  | script .sub base => "Modifier(Sub, " ++ Quoted.char base ++ ")"
  | fraction numerator denominator =>
    "Fraction \x7b numerator: " ++ Quoted.chars numerator ++ ", denominator: " ++
      Quoted.chars denominator ++ " \x7d"
  | accented base mark =>
    "AccentPair \x7b base: " ++ Quoted.char base ++ ", accent: " ++ Quoted.char mark ++ " \x7d"
  | canonical cs => "Canonical(" ++ Quoted.chars cs ++ ")"
  | unsupported tag => "Unsupported(" ++ Quoted.string tag ++ ")"

/-- Sorting a mapping invents no character. -/
theorem mem_image_of_ofMapping? {m : Mapping} {d : Decomposition} {c : Char}
    (h : ofMapping? m = some d) (hc : c ∈ d.scalars) : c ∈ m.image := by
  rw [ofMapping?] at h
  split at h
  · simp at h
  · rename_i first rest himg
    split at h
    · split at h
      · cases h
        rw [himg]
        simpa [scalars] using hc
      · cases h
        exact hc
    all_goals cases h
    · rw [himg]; simp only [scalars, List.mem_singleton] at hc; simp [hc]
    · rw [himg]; simp only [scalars, List.mem_singleton] at hc; simp [hc]
    · exact hc
    · rw [himg]; simp only [scalars, List.mem_singleton] at hc; simp [hc]
    · rw [himg]; simp only [scalars, List.mem_singleton] at hc; simp [hc]
    · simp only [scalars, List.mem_append] at hc
      rcases hc with hc | hc
      · exact (List.takeWhile_sublist _).subset hc
      · exact (List.dropWhile_sublist _).subset ((List.drop_sublist 1 _).subset hc)
    · simp [scalars] at hc

end Decomposition

end TexGlyph
