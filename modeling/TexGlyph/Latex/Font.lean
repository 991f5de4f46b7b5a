import TexGlyph.Latex.Accent
import TexGlyph.Text.Part

/-!
# Font commands

The name of a styled letter says which font it is set in.  `wrapFont` finds the styles in the
name and wraps the letter in a command for each.  A style that was found is cut out of the name,
and longer styles are looked for before the words they are made of, so every word of the name
counts once.
-/

namespace TexGlyph

/-- The styles that names speak of and the command for each, in the order they are looked for. -/
def fontStyles : List (String × String) :=
  [("SANS-SERIF BOLD ITALIC", "\\symbfsfit"), ("SANS-SERIF BOLD", "\\symbfsf"),
    ("SANS-SERIF ITALIC", "\\symsfit"), ("BOLD ITALIC", "\\symbfit"),
    ("BOLD SCRIPT", "\\symbfscr"), ("DOUBLE-STRUCK ITALIC", "\\symbbit"),
    ("DOUBLE-STRUCK", "\\symbb"), ("BLACK-LETTER", "\\symfrak"), ("FRAKTUR", "\\symfrak"),
    ("SANS-SERIF", "\\symsf"), ("MONOSPACE", "\\symtt"), ("SCRIPT", "\\symscr"),
    ("BOLD", "\\symbf"), ("ITALIC", "\\symit")]

/-- Wraps `body` in the command of every style of the list that occurs in the name, the first
one innermost. -/
def wrapStyles : List (String × String) → List Char → String → String
  | [], _, body => body
  | (style, command) :: styles, name, body =>
    match cutFirst? style.toList name with
    | some rest => wrapStyles styles rest (applied command body)
    | none => wrapStyles styles name body

/-- Wraps `body` in the font commands that a character's name asks for. -/
def wrapFont (name body : String) : String := wrapStyles fontStyles name.toList body

example : wrapFont "MATHEMATICAL SANS-SERIF BOLD CAPITAL A" "A" = "\\symbfsf\x7bA\x7d" := by
  decide +kernel

end TexGlyph
