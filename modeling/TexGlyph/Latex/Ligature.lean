/-!
# Quotes and dashes

Typographic quotes, dashes and the no-break space have a spelling in ASCII that LaTeX turns back
into the character.
-/

namespace TexGlyph

/-- The spelling of typographic quotes, sorted by the quote. -/
def quoteSpellings : List (Char × String) :=
  [('\u2018', "\x60"), ('\u2019', "\x27"), ('\u201C', "\x60\x60"), ('\u201D', "\x27\x27")]

/-- The spelling of dashes and of the no-break space, sorted by the character. -/
def dashSpellings : List (Char × String) :=
  [('\u00A0', "~"), ('\u2010', "-"), ('\u2011', "-"), ('\u2013', "--"), ('\u2014', "---")]

end TexGlyph
