import TexGlyph.Text.Hex

/-!
# Keys of settings

A key says where a setting stands: a name, and then names of inner tables after a dot or places in
lists between brackets.  A place that is negative counts from the end.
-/

namespace TexGlyph

/-- One step from a setting to an inner one. -/
inductive KeyStep where
  /-- To the entry of a table. -/
  | child (name : String)
  /-- To an item of a list. -/
  | item (place : Int)
deriving DecidableEq, Repr

/-- A key: a name and the steps after it. -/
structure SettingKey where
  /-- The name of the outermost entry. -/
  name : String
  /-- The steps after it. -/
  steps : List KeyStep := []
deriving DecidableEq, Repr

namespace SettingKey

/-- Whether the character may stand in a name. -/
def isNameChar (c : Char) : Bool := c.isAlphanum || c = ' ' || c = '_' || c = '-'

/-- Reads a name. -/
def name? (cs : List Char) : Option (String × List Char) :=
  let name := cs.takeWhile isNameChar
  if name.isEmpty then none else some (String.ofList name, cs.dropWhile isNameChar)

/-- Whether the character may stand beside the number of a place. -/
def isGap (c : Char) : Bool := c = ' ' || c = '\t'

/-- Reads a place in a list and the bracket after it. -/
def place? (cs : List Char) : Option (Int × List Char) :=
  let (negative, cs) := match cs.dropWhile isGap with
    | '-' :: cs => (true, cs)
    | cs => (false, cs)
  let digits := cs.takeWhile Char.isDigit
  let n : Nat := digits.foldl (fun (n : Nat) c => 10 * n + (c.toNat - 0x30)) 0
  match (cs.dropWhile Char.isDigit).dropWhile isGap with
  | ']' :: rest =>
    if digits.isEmpty ∨ 1 <<< 63 ≤ n then none
    else some (if negative then -(n : Int) else n, rest)
  | _ => none

/-- Reads the steps after a name; each takes at least one character. -/
def steps? : Nat → List Char → Option (List KeyStep)
  | _, [] => some []
  | 0, _ => none
  | bound + 1, '.' :: cs =>
    (name? cs).bind fun (name, cs) => (steps? bound cs).map (.child name :: ·)
  | bound + 1, '[' :: cs =>
    (place? cs).bind fun (place, cs) => (steps? bound cs).map (.item place :: ·)
  | _, _ => none

/-- Reads a key. -/
def read? (key : String) : Option SettingKey :=
  (name? key.toList).bind fun (name, cs) =>
    (steps? cs.length cs).map (⟨name, ·⟩)

end SettingKey

end TexGlyph
