import TexGlyph.Text.Blank
import TexGlyph.Text.Part

/-!
# Commands for Greek letters

A Greek letter is written by the last word of its name, in lower case for a small letter and with
a capital in front for any other.
-/

namespace TexGlyph

/-- The name of the command for a letter with the given name. -/
def greekCommand (name : String) : String :=
  let word := ((cutAt ' ' name.toList).getLast?.getD []).map Char.toLower
  let word := if word = "lamda".toList then "lambda".toList else word
  if occursIn "SMALL" name then String.ofList word
  else match word with
    | [] => ""
    | c :: cs => String.ofList (c.toUpper :: cs)

/-- The variant form of a command: `\theta` becomes `\vartheta`, and a text that is no command
stays as it is. -/
def variantForm (s : String) : String :=
  match s.toList with
  | '\\' :: rest => "\\var" ++ String.ofList rest
  | _ => s

example : greekCommand "GREEK CAPITAL LETTER LAMDA" = "Lambda" := by decide +kernel
example : greekCommand "GREEK SMALL LETTER FINAL SIGMA" = "sigma" := by decide +kernel

end TexGlyph
