import TexGlyph.Decimal.Binary64

/-!
# Values of TOML

The values that a TOML document can hold.  Dates and times are kept in their normal written form.
-/

namespace TexGlyph.Toml

/-- A value of a document. -/
inductive Value where
  /-- A text. -/
  | string (text : String)
  /-- A whole number. -/
  | integer (n : Int)
  /-- A floating-point number. -/
  | float (x : Binary64)
  /-- A truth value. -/
  | boolean (b : Bool)
  /-- A date, a time or both. -/
  | datetime (text : String)
  /-- An array. -/
  | array (items : List Value)
  /-- A table. -/
  | table (entries : List (String × Value))

/-- Reads something in front of a text and gives what follows it. -/
abbrev Reader (α : Type) := List Char → Option (α × List Char)

end TexGlyph.Toml
