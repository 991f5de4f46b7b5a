import TexGlyph.Lexicon.Building
import TexGlyph.Lexicon.Bundled

/-!
# The standard lexicon

The lexicon of the usual preset and the bundled definitions.
-/

namespace TexGlyph.Lexicon

/-- The lexicon that is used where nothing else is asked for. -/
def standard : Lexicon := build .usual [.bundledSymbols, .bundledAliases]

end TexGlyph.Lexicon
