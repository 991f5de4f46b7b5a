import TexGlyph.Lexicon.Search
import TexGlyph.Main
import TexGlyph.Proofs.Lookup
import TexGlyph.Proofs.Latex.Group
import TexGlyph.Proofs.Spelling.Chunk
import TexGlyph.Proofs.Spelling.Precomposed
import TexGlyph.Proofs.Spelling.Warning
import TexGlyph.Proofs.Spelling.Grouping
import TexGlyph.Proofs.Latex.Substitution
import TexGlyph.Proofs.Lexicon.Table
import TexGlyph.Proofs.RoundTrip
import TexGlyph.Proofs.Latex.Line
import TexGlyph.Proofs.Lexicon.Growth
import TexGlyph.Proofs.Lexicon.Coherence
import TexGlyph.Proofs.Latex.AccentCommand
import TexGlyph.Proofs.Spelling.Renaming
import TexGlyph.Proofs.Spelling.AccentMode
import TexGlyph.Proofs.Config.Layering
import TexGlyph.Proofs.Config.Mapping
import TexGlyph.Proofs.Latex.Markup
import TexGlyph.Proofs.Lexicon.Canonical
import TexGlyph.Proofs.Lexicon.Meaning
import TexGlyph.Proofs.Lexicon.StandardMarkup
import TexGlyph.Proofs.Spelling.Ascii
import TexGlyph.Proofs.Spelling.Locality
import TexGlyph.Files.System
import TexGlyph.Proofs.CommandLine.Run
import TexGlyph.Proofs.Spelling.Line
import TexGlyph.Proofs.Lexicon.Search
import TexGlyph.Proofs.Unicode.Decomposition
import TexGlyph.Proofs.Spelling.Depth
import TexGlyph.Proofs.Spelling.Unsupported
import TexGlyph.Proofs.Lexicon.OneWay
import TexGlyph.Proofs.Spelling.ComposedMark
import TexGlyph.Proofs.Lexicon.Separation
import TexGlyph.Proofs.Lexicon.SourceOrder
import TexGlyph.Proofs.Lexicon.Definition.Written
import TexGlyph.Proofs.Lexicon.Definition.Alias
import TexGlyph.Proofs.Lexicon.Definition.AliasPlace
import TexGlyph.Proofs.Lexicon.Definition.AliasLine
import TexGlyph.Proofs.Spelling.OverrideKey
import TexGlyph.Proofs.Lexicon.Harmless
import TexGlyph.Proofs.Encoding.Input
import TexGlyph.Proofs.Lexicon.Definition.Grouping
import TexGlyph.Proofs.Lexicon.Discovery
import TexGlyph.Proofs.Text.Pieces
import TexGlyph.Proofs.Latex.Font
import TexGlyph.Proofs.Files.Spelling
