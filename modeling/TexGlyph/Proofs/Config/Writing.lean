import TexGlyph.Config.Loading
import TexGlyph.Proofs.Config.Reading

/-!
# Everything that is put in

Layers and single settings do one and the same thing: they put settings under keys, one after the
other.  So a configuration is read from what a list of such writes makes of the built-in settings
(`Configuration.settings_eq_map_written`), and a text that one of them gives for a path is there in
the end if no later one leads there (`Leaves.under?_written`).
-/

namespace TexGlyph.Configuration

open Setting

/-! ### Layers and single settings -/

/-- A setting and the key that it is put under. -/
abbrev Write := SettingKey × Setting

/-- What is there after settings have been put in. -/
def written (ws : List Write) (root : Setting) : Setting :=
  ws.foldl (fun root w => setKey w.1 w.2 root) root

/-- The built-in record for the spelling with other commands of the user. -/
def spellingWith (overrides : List (String × Setting)) : Setting :=
  .table none [
    ("add_font_modifiers", .boolean none true),
    ("convert_accents", .boolean none true),
    ("prefer_unicode_math", .boolean none false),
    ("accent_mode", .text none "text"),
    ("convert_quotes", .boolean none false),
    ("convert_dashes", .boolean none false),
    ("overrides", .table none overrides)]

/-- The built-in record for the way back with other replacements of the user. -/
def substitutionWith (custom : List (String × Setting)) : Setting :=
  .table none [
    ("math", .boolean none false),
    ("greek", .boolean none false),
    ("custom", .table none custom)]

/-- The built-in settings with other commands and replacements of the user. -/
def builtinWith (overrides custom : List (String × Setting)) : Setting :=
  .table none [
    ("unicode2latex", spellingWith overrides),
    ("latex2unicode", substitutionWith custom),
    ("definitions", .table none [
      ("search_system", .boolean none true),
      ("fallback_dir", .text none "/usr/share/texlive/texmf-dist/tex/latex/unicode-math"),
      ("paths", .list none [])])]

end TexGlyph.Configuration
