/-!
# Presets

A preset is what a lexicon holds before any definition is read.  Because a definition never
removes an entry and adds its own after those there are, the entries of the preset stay
canonical.
-/

namespace TexGlyph

/-- The entries a lexicon starts with. -/
structure Preset where
  /-- Characters and their commands, for both directions. -/
  symbols : List (Char × String) := []
  /-- Commands and their characters, for the way back only. -/
  meanings : List (String × Char) := []
  /-- Characters that do not give a meaning to the command of their record if it has none. -/
  oneWay : List Char := []
  /-- Commands for Greek letters. -/
  greek : List (String × Char) := []
deriving DecidableEq, Repr

namespace Preset

/-- The preset without entries. -/
def empty : Preset := {}

/-- The usual preset.  Small Greek letters turn into the italic letters of formulas, capitals
into upright ones; the square root and the bottom bracket keep their commands. -/
def usual : Preset where
  symbols := [('\u00D7', "\\times"), ('\u221E', "\\infty"), ('\u00AB', "\\guillemotleft"),
    ('\u00BB', "\\guillemotright"), ('\u2218', "\\circ"), ('\u21D4', "\\iff"),
    ('\u2014', "---")]
  meanings := [("\\|", '\u2016'), ("\\iff", '\u21D4')]
  oneWay := ['\u221A', '\u23DF']
  greek := [
    ("\\Gamma", '\u0393'), ("\\Theta", '\u0398'), ("\\Lambda", '\u039B'), ("\\Xi", '\u039E'),
    ("\\Pi", '\u03A0'), ("\\Sigma", '\u03A3'), ("\\Upsilon", '\u03A5'), ("\\Phi", '\u03A6'),
    ("\\Psi", '\u03A8'), ("\\alpha", '𝛼'), ("\\beta", '𝛽'), ("\\gamma", '𝛾'), ("\\delta", '𝛿'),
    ("\\varepsilon", '𝜀'), ("\\zeta", '𝜁'), ("\\eta", '𝜂'), ("\\theta", '𝜃'), ("\\vartheta", '𝜗'),
    ("\\iota", '𝜄'), ("\\kappa", '𝜅'), ("\\lambda", '𝜆'), ("\\mu", '𝜇'), ("\\nu", '𝜈'),
    ("\\xi", '𝜉'), ("\\pi", '𝜋'), ("\\rho", '𝜌'), ("\\varsigma", '𝜍'), ("\\sigma", '𝜎'),
    ("\\tau", '𝜏'), ("\\upsilon", '𝜐'), ("\\phi", '𝜙'), ("\\varphi", '𝜑'), ("\\chi", '𝜒'),
    ("\\psi", '𝜓'), ("\\omega", '𝜔'), ("\\Omega", '\u03A9'), ("\\Delta", '\u0394'),
    ("\\epsilon", '𝜖'), ("\\varrho", '𝜚'), ("\\varpi", '𝜛')]

end Preset

end TexGlyph
