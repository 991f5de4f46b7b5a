import TexGlyph.Config.Fault
import TexGlyph.Config.Setting
import TexGlyph.Lexicon.Basic
import TexGlyph.Unicode.Lowercase

/-!
# Reading settings

Each reader takes the steps that lead to a setting and the setting, and gives the value or the
fault.  A record may be written as a table or as a list of its fields in order.  What a record
holds beyond its fields is ignored.

A fault of a field that is there comes before the lack of another one.
-/

namespace TexGlyph

namespace Setting

/-- The truth value that a word in lower case stands for. -/
def wordTruth? (word : String) : Option Bool :=
  if word ∈ ["1", "true", "on", "yes"] then some true
  else if word ∈ ["0", "false", "off", "no"] then some false
  else none

/-- The fault of a setting that is no truth value. -/
def notBoolean (place : List KeyStep) (s : Setting) : ConfigFault :=
  .notScalar s.described .boolean place s.origin

/-- Reads a truth value: a number is true unless it is zero, and words count in any case. -/
def readBoolean (place : List KeyStep) : Setting → Except ConfigFault Bool
  | boolean _ b => .ok b
  | integer _ n => .ok (n ≠ 0)
  | float _ x => .ok (!x.isZero)
  | text o s =>
    let word := lowercase s
    match wordTruth? word with
    | some b => .ok b
    | none => .error (notBoolean place (text o word))
  | s => .error (notBoolean place s)

/-- Reads a text. -/
def readText (place : List KeyStep) (s : Setting) : Except ConfigFault String :=
  match s.text? with
  | some value => .ok value
  | none => .error (.notScalar s.described .text place s.origin)

/-- Reads a text that may be missing. -/
def readOptional (place : List KeyStep) : Setting → Except ConfigFault (Option String)
  | unset _ => .ok none
  | s => (readText place s).map some

/-- Reads a list of texts. -/
def readTexts (place : List KeyStep) : Setting → Except ConfigFault (List String)
  | list _ items => items.zipIdx.mapM fun (s, i) => readText (place ++ [.item i]) s
  | s => .error (.notContainer s.described .list)

/-- Reads a table of texts. -/
def readTable (place : List KeyStep) : Setting → Except ConfigFault ReplacementTable
  | table _ entries => entries.foldlM (fun texts (key, s) =>
      (readText (place ++ [.child key]) s).map (texts.insert key ·)) ∅
  | s => .error (.notContainer s.described .table)

end Setting

/-- The fields of a record that are there, and what it means that another one is not. -/
structure Record where
  /-- The steps that lead to each field, and its setting. -/
  fields : List (String × List KeyStep × Setting)
  /-- The fault of a field that is not there. -/
  absence : String → ConfigFault

namespace Record

/-- Takes a setting as a record with the given name and fields. -/
def ofSetting (name : String) (fields : List String) (place : List KeyStep) :
    Setting → Except ConfigFault Record
  | .table _ entries => .ok {
      fields := fields.filterMap fun field =>
        (entries.lookup field).map fun s => (field, place ++ [.child field], s)
      absence := .missingField }
  | .list _ items => .ok {
      fields := (fields.zip items).zipIdx.map fun ((field, s), i) =>
        (field, place ++ [.item i], s)
      absence := fun _ => .tooShort items.length name fields.length }
  | s => .error (.notContainer s.described (.record name))

/-- Reads a field if it is there. -/
def field? {α : Type} (r : Record) (name : String)
    (read : List KeyStep → Setting → Except ConfigFault α) : Except ConfigFault (Option α) :=
  match r.fields.lookup name with
  | some (place, s) => (read place s).map some
  | none => .ok none

/-- Insists on a field. -/
def require {α : Type} (r : Record) (name : String) : Option α → Except ConfigFault α
  | some value => .ok value
  | none => .error (r.absence name)

end Record

end TexGlyph
