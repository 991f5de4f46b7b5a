import TexGlyph.Unicode.Printable

/-!
# Quoted text in messages

Messages quote characters, strings and lists.  A character stands between single quotes and a
string between double quotes; the quote itself, the backslash and the usual control characters
get a backslash, and whatever would not show on its own (marks that extend a grapheme and
characters without a printed form) is given by its code point.
-/

namespace TexGlyph.Quoted

/-- The written form of one character inside the given quotation mark. -/
def escaped (quote c : Char) : List Char :=
  if c = '\x00' then ['\\', '0']
  else if c = '\t' then ['\\', 't']
  else if c = '\r' then ['\\', 'r']
  else if c = '\n' then ['\\', 'n']
  else if c = '\\' ∨ c = quote then ['\\', c]
  else if showsAlone c then [c]
  else ['\\', 'u', '\x7b'] ++ Nat.toDigits 16 c.toNat ++ ['\x7d']

/-- A character between single quotes. -/
def char (c : Char) : String := String.ofList ('\x27' :: escaped '\x27' c ++ ['\x27'])

/-- A string between double quotes. -/
def string (s : String) : String :=
  String.ofList ('\x22' :: s.toList.flatMap (escaped '\x22') ++ ['\x22'])

/-- Written elements between square brackets, with a comma and a blank between two of them. -/
def list (items : List String) : String := "[" ++ ", ".intercalate items ++ "]"

/-- Characters as a list of quoted characters. -/
def chars (cs : List Char) : String := list (cs.map char)

/-- Strings as a list of quoted strings. -/
def strings (ss : List String) : String := list (ss.map string)

end TexGlyph.Quoted
