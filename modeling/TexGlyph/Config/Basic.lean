import TexGlyph.Config.Record
import TexGlyph.Lexicon.Search
import TexGlyph.Spelling.Preferences
import TexGlyph.Substitution

/-!
# Configurations

A configuration has three parts: how characters are spelled, which commands are replaced on the
way back, and where definitions are looked for.
-/

namespace TexGlyph

/-- How characters are spelled; the keys of the overrides are taken as they are written. -/
structure SpellingConfig where
  /-- Whether styled letters are wrapped in font commands. -/
  fonts : Bool := true
  /-- Whether marks become accent commands. -/
  accents : Bool := true
  /-- Whether the command of a formula comes before a decomposition. -/
  preferMath : Bool := false
  /-- Which accent commands are written. -/
  accentMode : AccentMode := .text
  /-- Whether quotes get their ASCII spelling. -/
  quotes : Bool := false
  /-- Whether dashes get their ASCII spelling. -/
  dashes : Bool := false
  /-- The user's commands by the keys they are given under. -/
  overrides : ReplacementTable := ∅

namespace SpellingConfig

/-- The fields of the record. -/
def fieldNames : List String :=
  ["add_font_modifiers", "convert_accents", "prefer_unicode_math", "accent_mode",
    "convert_quotes", "convert_dashes", "overrides"]

/-- Reads an accent mode. -/
def readMode (place : List KeyStep) (s : Setting) : Except ConfigFault AccentMode :=
  (s.readText place).bind fun name =>
    (AccentMode.ofName name).mapError ConfigFault.accentMode

/-- Reads the record. -/
def ofSetting (place : List KeyStep) (s : Setting) : Except ConfigFault SpellingConfig := do
  let r ← Record.ofSetting "Unicode2LatexConfig" fieldNames place s
  let fonts ← r.field? "add_font_modifiers" Setting.readBoolean
  let accents ← r.field? "convert_accents" Setting.readBoolean
  let preferMath ← r.field? "prefer_unicode_math" Setting.readBoolean
  let accentMode ← r.field? "accent_mode" readMode
  let quotes ← r.field? "convert_quotes" Setting.readBoolean
  let dashes ← r.field? "convert_dashes" Setting.readBoolean
  let overrides ← r.field? "overrides" Setting.readTable
  return {
    fonts := ← r.require "add_font_modifiers" fonts
    accents := ← r.require "convert_accents" accents
    preferMath := ← r.require "prefer_unicode_math" preferMath
    accentMode := ← r.require "accent_mode" accentMode
    quotes := ← r.require "convert_quotes" quotes
    dashes := ← r.require "convert_dashes" dashes
    overrides := overrides.getD ∅ }

/-- The preferences of a configuration.  The keys are read in their order, so of several keys for
one character the last decides, and the first that stands for no character is the fault. -/
def preferences (config : SpellingConfig) : Except Fault Preferences :=
  config.overrides.toList.foldlM (fun (p : Preferences) (key, command) =>
      (Preferences.keyed key).map (p.withOverride · command))
    { fonts := config.fonts
      accents := config.accents
      preferMath := config.preferMath
      accentMode := config.accentMode
      quotes := config.quotes
      dashes := config.dashes }

end SpellingConfig

/-- Which commands are replaced on the way back. -/
structure SubstitutionConfig where
  /-- Whether the commands of symbols are. -/
  math : Bool := false
  /-- Whether the commands of Greek letters are. -/
  greek : Bool := false
  /-- The user's replacements. -/
  custom : ReplacementTable := ∅

namespace SubstitutionConfig

/-- Reads the record. -/
def ofSetting (place : List KeyStep) (s : Setting) : Except ConfigFault SubstitutionConfig := do
  let r ← Record.ofSetting "Latex2UnicodeConfig" ["math", "greek", "custom"] place s
  let math ← r.field? "math" Setting.readBoolean
  let greek ← r.field? "greek" Setting.readBoolean
  let custom ← r.field? "custom" Setting.readTable
  return {
    math := ← r.require "math" math
    greek := ← r.require "greek" greek
    custom := custom.getD ∅ }

/-- The substitution of a configuration; the user's replacements win over those of a lexicon. -/
def substitution (config : SubstitutionConfig) (lexicon : Lexicon) : Substitution :=
  (Substitution.ofLexicon lexicon config.math config.greek).withTable config.custom

end SubstitutionConfig

/-- Reads where definitions are looked for. -/
def SearchOptions.ofSetting (place : List KeyStep) (s : Setting) :
    Except ConfigFault SearchOptions := do
  let r ← Record.ofSetting "DefinitionsConfig" ["search_system", "fallback_dir", "paths"] place s
  let searchSystem ← r.field? "search_system" Setting.readBoolean
  let fallbackDir ← r.field? "fallback_dir" Setting.readOptional
  let paths ← r.field? "paths" Setting.readTexts
  return {
    searchSystem := ← r.require "search_system" searchSystem
    fallbackDir := fallbackDir.getD none
    paths := paths.getD [] }

/-- A configuration. -/
structure Configuration where
  /-- How characters are spelled. -/
  spelling : SpellingConfig := {}
  /-- Which commands are replaced. -/
  substitution : SubstitutionConfig := {}
  /-- Where definitions are looked for. -/
  search : SearchOptions := {}

namespace Configuration

/-- Reads a configuration. -/
def ofSetting (s : Setting) : Except ConfigFault Configuration := do
  let r ← Record.ofSetting "U2lConfig" ["unicode2latex", "latex2unicode", "definitions"] [] s
  let spelling ← r.field? "unicode2latex" SpellingConfig.ofSetting
  let substitution ← r.field? "latex2unicode" SubstitutionConfig.ofSetting
  let search ← r.field? "definitions" SearchOptions.ofSetting
  return {
    spelling := ← r.require "unicode2latex" spelling
    substitution := ← r.require "latex2unicode" substitution
    search := ← r.require "definitions" search }

/-- The lexicon of the definitions that a configuration asks for.  The usual search has a lexicon
that is kept for all. -/
def lexicon (config : Configuration) (s : Surroundings) : Except Fault Lexicon :=
  if config.search.isUsual then .ok (Lexicon.ofUsualSearch s)
  else (Search.run s config.search).map fun (sources, _) => .build .usual sources

/-- What there is to say about the making of the lexicon.  The lexicon of the usual search is made
when it is first asked for; once it is `kept`, there is nothing more to say about it. -/
def lexiconLog (config : Configuration) (s : Surroundings) (kept : Bool := true) : List LogEntry :=
  if config.search.isUsual then if kept then [] else Lexicon.usualSearchLog s
  else match Search.run s config.search with
    | .error _ => []
    | .ok (sources, notes) =>
      notes.map (·.entry) ++
        ⟨.info, "building tables from " ++ toString sources.length ++ " definition sources"⟩ ::
          (Lexicon.buildNotes .usual sources).map (·.entry)

end Configuration

end TexGlyph
