import TexGlyph.Decimal.Shortest
import TexGlyph.Text.Quoted
import TexGlyph.Toml.Value

/-!
# Settings

A setting is a value of a configuration together with the file it came from.  Settings are read
leniently: a truth value may be a number or a word, and a text may be a number or a truth value.
-/

namespace TexGlyph

/-- The value of a setting. -/
inductive Setting where
  /-- No value. -/
  | unset (origin : Option String)
  /-- A truth value. -/
  | boolean (origin : Option String) (b : Bool)
  /-- A whole number. -/
  | integer (origin : Option String) (n : Int)
  /-- A floating-point number. -/
  | float (origin : Option String) (x : Binary64)
  /-- A text. -/
  | text (origin : Option String) (s : String)
  /-- A list of settings. -/
  | list (origin : Option String) (items : List Setting)
  /-- Settings by their keys. -/
  | table (origin : Option String) (entries : List (String × Setting))
deriving Inhabited

namespace Setting

/-- The file a setting came from. -/
def origin : Setting → Option String
  | unset o => o
  | boolean o _ => o
  | integer o _ => o
  | float o _ => o
  | text o _ => o
  | list o _ => o
  | table o _ => o

/-- What a setting is, in the words of messages. -/
def described : Setting → String
  | unset _ => "unit value"
  | boolean _ b => "boolean `" ++ toString b ++ "`"
  | integer _ n => "integer `" ++ toString n ++ "`"
  | float _ x =>
    let shown := Shortest.text x
    let isWhole := match x with
      | .finite _ _ _ => !shown.toList.contains '.'
      | _ => false
    "floating point `" ++ shown ++ (if isWhole then ".0" else "") ++ "`"
  | text _ s => "string " ++ Quoted.string s
  | list _ _ => "sequence"
  | table _ _ => "map"

/-- The text of a setting that is a single value. -/
def text? : Setting → Option String
  | boolean _ b => some (toString b)
  | integer _ n => some (toString n)
  | float _ x => some (Shortest.text x)
  | text _ s => some s
  | _ => none

mutual

/-- The setting of a value in a file. -/
def ofToml (origin : Option String) : Toml.Value → Setting
  | .string s => text origin s
  | .integer n => integer origin n
  | .float x => float origin x
  | .boolean b => boolean origin b
  | .datetime s => text origin s
  | .array items => list origin (ofItems origin items)
  | .table entries => table origin (ofEntries origin entries)

/-- The settings of the items of an array. -/
def ofItems (origin : Option String) : List Toml.Value → List Setting
  | [] => []
  | v :: vs => ofToml origin v :: ofItems origin vs

/-- The settings of the entries of a table. -/
def ofEntries (origin : Option String) : List (String × Toml.Value) → List (String × Setting)
  | [] => []
  | (key, v) :: rest => (key, ofToml origin v) :: ofEntries origin rest

end

end Setting

end TexGlyph
