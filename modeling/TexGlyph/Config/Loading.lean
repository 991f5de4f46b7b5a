import TexGlyph.Config.Basic
import TexGlyph.Config.Layering
import TexGlyph.Toml.Document

/-!
# Loading a configuration

A configuration is put together from layers: the built-in settings, then files in order, then
single settings under keys.  A file that is asked for by a name without its extension is found
too.  A file that does not have to be there is passed over if it is missing or no text; a text
that is no TOML is a fault in either case.
-/

namespace TexGlyph

/-- A file of settings. -/
structure ConfigLayer where
  /-- The path of the file. -/
  path : String
  /-- Whether the file has to be there. -/
  required : Bool := true
deriving DecidableEq, Repr

namespace Configuration

/-- The built-in settings. -/
def builtin : Setting :=
  .table none [
    ("unicode2latex", .table none [
      ("add_font_modifiers", .boolean none true),
      ("convert_accents", .boolean none true),
      ("prefer_unicode_math", .boolean none false),
      ("accent_mode", .text none "text"),
      ("convert_quotes", .boolean none false),
      ("convert_dashes", .boolean none false),
      ("overrides", .table none [])]),
    ("latex2unicode", .table none [
      ("math", .boolean none false),
      ("greek", .boolean none false),
      ("custom", .table none [])]),
    ("definitions", .table none [
      ("search_system", .boolean none true),
      ("fallback_dir", .text none "/usr/share/texlive/texmf-dist/tex/latex/unicode-math"),
      ("paths", .list none [])])]

/-- The file of a layer: the path itself, or the path with the extension of settings. -/
def locateFile? (files : Files) (path : String) : Option String :=
  if files.isFile path then some path
  else (Path.withSuffix? ".toml" path).filter files.isFile

/-- The path of the file of a layer and its text. -/
def readLayer (files : Files) (path : String) : Except ConfigFault (String × String) :=
  match locateFile? files path with
  | none => .error (.missingFile path)
  | some found =>
    match files.readText found with
    | .ok text => .ok (found, text)
    | .error cause => .error (.unreadableFile found cause)

/-- The settings in the text of a file. -/
def readSettings (path text : String) : Except ConfigFault (List (String × Setting)) :=
  match Toml.document? text with
  | some entries => .ok (Setting.ofEntries (some (Path.tidy path)) entries)
  | none => .error (.malformedFile path)

/-- Puts a layer over the settings so far. -/
def addLayer (files : Files) (root : Setting) (layer : ConfigLayer) :
    Except ConfigFault Setting :=
  match readLayer files layer.path with
  | .ok (path, text) => (readSettings path text).map (Setting.addFile · root)
  | .error fault => if layer.required then .error fault else .ok root

/-- Reads the key of a single setting. -/
def readChoice (choice : String × Setting) : Except ConfigFault (SettingKey × Setting) :=
  match SettingKey.read? choice.1 with
  | some key => .ok (key, choice.2)
  | none => .error (.malformedKey choice.1)

/-- The settings of all layers. -/
def settings (files : Files) (layers : List ConfigLayer) (choices : List (String × Setting)) :
    Except ConfigFault Setting := do
  let choices ← choices.mapM readChoice
  let root ← layers.foldlM (addLayer files) builtin
  return choices.foldl (fun root (key, value) => Setting.setKey key value root) root

/-- Loads a configuration. -/
def load (files : Files) (layers : List ConfigLayer) (choices : List (String × Setting) := []) :
    Except ConfigFault Configuration :=
  (settings files layers choices).bind ofSetting

end Configuration

end TexGlyph
