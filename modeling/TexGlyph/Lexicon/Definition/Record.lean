import TexGlyph.Text.Blank
import TexGlyph.Text.Hex
import TexGlyph.Text.Part

/-!
# Symbol records

A symbol record is a line of a definition file that gives a character its command:

    \UnicodeMathSymbol{"02260}{\ne }{\mathrel}{/ne /neq not equal}%

The keyword stands in front, and four groups in braces follow: the code point in hexadecimal, the
command, the class of the symbol and a description.  Groups may hold further groups.  Words of
the description that begin with a slash name further commands for the character.
-/

namespace TexGlyph

/-- What a definition file says about one character. -/
structure SymbolRecord where
  /-- The character. -/
  codepoint : Char
  /-- Its command, with the backslash. -/
  command : String
  /-- The class of the symbol. -/
  category : String
  /-- The description. -/
  info : String
deriving DecidableEq, Repr

/-- The part of a text before the brace that closes the open group, and the part after it;
`depth` is the number of groups open inside. -/
def closeGroup? : Nat → List Char → Option (List Char × List Char)
  | _, [] => none
  | depth, c :: cs =>
    if c = '\x7b' then (closeGroup? (depth + 1) cs).map fun (group, rest) => (c :: group, rest)
    else if c = '\x7d' then
      match depth with
      | 0 => some ([], cs)
      | depth + 1 => (closeGroup? depth cs).map fun (group, rest) => (c :: group, rest)
    else (closeGroup? depth cs).map fun (group, rest) => (c :: group, rest)

/-- The contents of the first `count` groups of a text that has only blanks before and between
them. -/
def bracedFields? : Nat → List Char → Option (List (List Char))
  | 0, _ => some []
  | count + 1, cs =>
    match trimStart cs with
    | '\x7b' :: cs =>
      match closeGroup? 0 cs with
      | some (field, rest) => (bracedFields? count rest).map (field :: ·)
      | none => none
    | _ => none

namespace SymbolRecord

/-- The word that a symbol record begins with. -/
def keyword : String := "\\UnicodeMathSymbol"

/-- The rest of a line after its keyword, if it has one. -/
def afterKeyword? (line : List Char) : Option (List Char) :=
  let line := trimStart line
  if keyword.toList.isPrefixOf line then some (line.drop keyword.toList.length) else none

/-- Reads the four fields of a record. -/
def ofFields? : List (List Char) → Option SymbolRecord
  | [code, command, category, info] =>
    match Hex.scalar? ((trim code).dropWhile (· = '\x22')) with
    | none => none
    | some codepoint =>
      if trim command = [] then none
      else some {
        codepoint
        command := String.ofList (trim command)
        category := String.ofList (trim category)
        info := String.ofList (trim info) }
  | _ => none

/-- Reads the fields that follow the keyword. -/
def read? (cs : List Char) : Option SymbolRecord := (bracedFields? 4 cs).bind ofFields?

/-- Whether the record is about an accent. -/
def isAccent (r : SymbolRecord) : Bool := occursIn "accent" r.category

/-- The further commands that the description names. -/
def infoAliases (r : SymbolRecord) : List String :=
  (cutAt ' ' r.info.toList).filterMap fun
    | '/' :: name => some (String.ofList ('\\' :: name))
    | _ => none

end SymbolRecord

end TexGlyph
