import TexGlyph.Config.Key
import TexGlyph.Config.Setting
import TexGlyph.Unicode.Lowercase

/-!
# Layers of settings

Later settings replace earlier ones, except that tables are merged key by key.  Keys are compared
in lower case, and only their lower-case form is kept.  An empty table changes nothing where there
is a setting already; any other table takes the place of a setting that is no table.
-/

namespace TexGlyph.Setting

/-- The entries of a table; a setting that is no table has none. -/
def entries : Setting → List (String × Setting)
  | table _ entries => entries
  | _ => []

/-- The items of a list; a setting that is no list has none. -/
def items : Setting → List Setting
  | list _ items => items
  | _ => []

/-- The origin that a setting keeps as a table. -/
def tableOrigin : Setting → Option String
  | table o _ => o
  | _ => none

/-- The origin that a setting keeps as a list. -/
def listOrigin : Setting → Option String
  | list o _ => o
  | _ => none

/-- Puts an entry under a key: in the place of the old one, or at the end. -/
def putEntry (key : String) (value : Setting) : List (String × Setting) → List (String × Setting)
  | [] => [(key, value)]
  | (k, old) :: rest => if k = key then (k, value) :: rest else (k, old) :: putEntry key value rest

mutual

/-- What a setting becomes where another one stood before. -/
def replacing (old : Option Setting) : Setting → Setting
  | table _ [] => old.getD (table none [])
  | table _ (entry :: rest) =>
    let base := old.getD (table none [])
    table base.tableOrigin (mergeEntries base.entries (entry :: rest))
  | value => value

/-- Merges entries into those of a table. -/
def mergeEntries (into : List (String × Setting)) :
    List (String × Setting) → List (String × Setting)
  | [] => into
  | (key, value) :: rest =>
    let key := lowercase key
    mergeEntries (putEntry key (replacing (into.lookup key) value) into) rest

end

/-- Puts a setting under a key of a table; a setting that is no table becomes one. -/
def setName (name : String) (value root : Setting) : Setting :=
  table root.tableOrigin (mergeEntries root.entries [(name, value)])

/-- The place in a list of `size` items that a step means. -/
def placeOf (place : Int) (size : Nat) : Nat := (if 0 ≤ place then place else place + size).toNat

/-- Makes a list long enough for a place. -/
def padded (items : List Setting) (place : Nat) : List Setting :=
  items ++ List.replicate (place + 1 - items.length) (unset none)

/-- Puts a setting at the end of some steps, making tables and lists on the way. -/
def setSteps (value : Setting) : List KeyStep → Setting → Setting
  | [], _ => value
  | [.child name], root => setName name value root
  | .child name :: steps, root =>
    let key := lowercase name
    let inner := setSteps value steps ((root.entries.lookup key).getD (unset none))
    table root.tableOrigin (putEntry key inner root.entries)
  | .item place :: steps, root =>
    let place := placeOf place root.items.length
    let items := padded root.items place
    let inner := setSteps value steps (items.getD place (unset none))
    list root.listOrigin (items.set place inner)

/-- Puts a setting under a key. -/
def setKey (key : SettingKey) (value root : Setting) : Setting :=
  setSteps value (.child key.name :: key.steps) root

/-- Puts the entries of a file over the settings so far.  The keys of its outermost table may be
keys with several steps, which are read in lower case; what cannot be read as a key is taken as a
name. -/
def addFile (entries : List (String × Setting)) (root : Setting) : Setting :=
  entries.foldl (fun root (name, value) =>
    match SettingKey.read? (lowercase name) with
    | some key => setKey key value root
    | none => setName name value root) root

end TexGlyph.Setting
