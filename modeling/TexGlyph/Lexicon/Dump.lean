import TexGlyph.Lexicon.Basic
import TexGlyph.Text.Json

/-!
# The lexicon as JSON

All tables of a lexicon, for other programs to read.
-/

namespace TexGlyph.Lexicon

/-- The commands of each character. -/
def commandsJson (table : CommandTable) : JsonValue :=
  .object (table.toList.map fun (c, commands) =>
    (String.ofList [c], .array (commands.map .string)))

/-- The characters of each command. -/
def meaningsJson (table : MeaningTable) : JsonValue :=
  .object (table.toList.map fun (command, meanings) =>
    (command, .array (meanings.map fun c => .string (String.ofList [c]))))

/-- The text for each key. -/
def replacementsJson (table : ReplacementTable) : JsonValue :=
  .object (table.toList.map fun (key, text) => (key, .string text))

/-- The tables of a lexicon. -/
def json (lexicon : Lexicon) : JsonValue :=
  .object [
    ("math", commandsJson lexicon.commands),
    ("math_macros", meaningsJson lexicon.meanings),
    ("math_accents", commandsJson lexicon.accentCommands),
    ("math_accent_macros", meaningsJson lexicon.accentMeanings),
    ("greek_macros", meaningsJson lexicon.greek),
    ("replacements", replacementsJson lexicon.respellings)]

end TexGlyph.Lexicon
