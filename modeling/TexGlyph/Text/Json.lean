import TexGlyph.Text.Hex

/-!
# JSON texts

The values of JSON that tables are written as, and their layout: one item a line, indented by two
blanks a level.  An empty list or object stays on its line.
-/

namespace TexGlyph

/-- A value of JSON. -/
inductive JsonValue where
  /-- A string. -/
  | string (s : String)
  /-- A list. -/
  | array (items : List JsonValue)
  /-- An object; the keys keep their order. -/
  | object (members : List (String × JsonValue))
deriving Inhabited

namespace JsonValue

/-- A character in a string. -/
def escape (c : Char) : String :=
  match c with
  | '\x22' => "\\\x22"
  | '\\' => "\\\\"
  | '\x08' => "\\b"
  | '\x0c' => "\\f"
  | '\n' => "\\n"
  | '\r' => "\\r"
  | '\t' => "\\t"
  | c =>
    if c.toNat < 0x10 then "\\u000" ++ Hex.lower c.toNat
    else if c.toNat < 0x20 then "\\u00" ++ Hex.lower c.toNat
    else String.ofList [c]

/-- A string between its quotes. -/
def quote (s : String) : String := "\x22" ++ String.join (s.toList.map escape) ++ "\x22"

/-- The start of a line at a level. -/
def newLine (level : Nat) : String := "\n" ++ String.ofList (List.replicate (2 * level) ' ')

/-- Lays out items between brackets, where `level` is that of the brackets. -/
def enclose (level : Nat) (left right : String) : List String → String
  | [] => left ++ right
  | items =>
    left ++ newLine (level + 1) ++ ("," ++ newLine (level + 1)).intercalate items ++
      newLine level ++ right

mutual

/-- The text of a value at a level. -/
def textAt (level : Nat) : JsonValue → String
  | string s => quote s
  | array items => enclose level "[" "]" (itemTexts (level + 1) items)
  | object members => enclose level "\x7b" "\x7d" (memberTexts (level + 1) members)

/-- The texts of the items of a list. -/
def itemTexts (level : Nat) : List JsonValue → List String
  | [] => []
  | v :: rest => textAt level v :: itemTexts level rest

/-- The texts of the members of an object. -/
def memberTexts (level : Nat) : List (String × JsonValue) → List String
  | [] => []
  | (key, v) :: rest => (quote key ++ ": " ++ textAt level v) :: memberTexts level rest

end

/-- The text of a value. -/
def text (v : JsonValue) : String := textAt 0 v

end JsonValue

end TexGlyph
