import TexGlyph.Unicode.CaseTable
import TexGlyph.Unicode.Range

/-!
# Lower case

The full lower-case mapping of Unicode.  It is one character to one character except in two
places: the dotted capital I keeps its dot as a combining mark, and a capital sigma becomes the
final form at the end of a word, which takes both neighbours into account.
-/

namespace TexGlyph

/-- The lower-case form of a character, its neighbours left aside. -/
def lowerChar (c : Char) : List Char :=
  if c = '\u0130' then ['i', '\u0307']
  else
    let n := c.toNat
    match lowercaseRuns.find? fun r => r.first ≤ n && n ≤ r.last with
    | some r =>
      if (n - r.first) % r.step = 0 then [Char.ofNat (n + r.shift).toNat] else [c]
    | none => [c]

/-- Whether the first character that is not looked through is a cased letter. -/
def startsCased (cs : List Char) : Bool :=
  match cs.dropWhile (inRanges caseIgnorableRanges) with
  | [] => false
  | c :: _ => inRanges casedRanges c

/-- Lower-case form of a text whose preceding characters, the nearest first, are `before`. -/
def lowerAfter (before : List Char) : List Char → List Char
  | [] => []
  | c :: rest =>
    (if c = '\u03A3' then
      [if startsCased before && !startsCased rest then '\u03C2' else '\u03C3']
    else lowerChar c) ++ lowerAfter (c :: before) rest

/-- The lower-case form of a text. -/
def lowercase (s : String) : String := String.ofList (lowerAfter [] s.toList)

example : lowercase "Convert_Quotes" = "convert_quotes" := by decide +kernel
example : lowercase "ΑΣ Σ" = "ας σ" := by decide +kernel

end TexGlyph
