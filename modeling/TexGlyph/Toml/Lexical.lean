import TexGlyph.Text.Hex
import TexGlyph.Toml.Value

/-!
# Blanks, comments, texts and keys of TOML

Basic strings have escapes and literal strings have none; either may be written over several
lines between three quotes.  A line break inside a text is a line feed, however it is written.
-/

namespace TexGlyph.Toml

/-- Whether the character is a blank inside a line. -/
def isSpace (c : Char) : Bool := c = ' ' || c = '\t'

/-- The text after blanks. -/
def skipSpace (cs : List Char) : List Char := cs.dropWhile isSpace

/-- Whether the character may stand in comments and texts: no control character but the tab. -/
def isPlain (c : Char) : Bool := c = '\t' || (0x20 ≤ c.toNat && c ≠ '\x7F')

/-- The text after a given character in front. -/
def after? (c : Char) : List Char → Option (List Char)
  | [] => none
  | d :: cs => if d = c then some cs else none

/-- The text after a line break. -/
def afterBreak? : List Char → Option (List Char)
  | '\n' :: cs => some cs
  | '\r' :: '\n' :: cs => some cs
  | _ => none

/-- The text after a comment, if there is one. -/
def skipComment : List Char → List Char
  | '#' :: cs => cs.dropWhile isPlain
  | cs => cs

/-- The text after the end of a line: blanks, a comment, and a line break or the end. -/
def afterLine? (cs : List Char) : Option (List Char) :=
  match skipComment (skipSpace cs) with
  | [] => some []
  | cs => afterBreak? cs

/-- The text after blanks, comments and line breaks.  At most `bound` lines are skipped. -/
def skipLines : Nat → List Char → List Char
  | 0, cs => cs
  | bound + 1, cs =>
    match afterBreak? (skipComment (skipSpace cs)) with
    | some rest => skipLines bound rest
    | none => skipSpace cs

/-- Reads exactly `count` hexadecimal digits as a code point. -/
def codePoint? (count : Nat) : Reader Char := fun cs =>
  let digits := cs.take count
  if digits.length = count ∧ digits.all (fun c => (Hex.digitValue? c).isSome) then
    ((Hex.digits? 0 digits).bind Hex.scalarOfNat?).map fun c => (c, cs.drop count)
  else none

/-- Reads what follows the backslash of an escape. -/
def escape? : Reader Char
  | 'b' :: cs => some ('\x08', cs)
  | 't' :: cs => some ('\t', cs)
  | 'n' :: cs => some ('\n', cs)
  | 'f' :: cs => some ('\x0C', cs)
  | 'r' :: cs => some ('\r', cs)
  | '\x22' :: cs => some ('\x22', cs)
  | '\\' :: cs => some ('\\', cs)
  | 'u' :: cs => codePoint? 4 cs
  | 'U' :: cs => codePoint? 8 cs
  | _ => none

/-- Reads a basic string after its quote.  At most `bound` characters are read. -/
def basicRest? : Nat → Reader (List Char)
  | 0, _ => none
  | _, [] => none
  | bound + 1, c :: cs =>
    if c = '\x22' then some ([], cs)
    else if c = '\\' then
      (escape? cs).bind fun (c, cs) => (basicRest? bound cs).map fun (text, cs) => (c :: text, cs)
    else if isPlain c then (basicRest? bound cs).map fun (text, cs) => (c :: text, cs)
    else none

/-- Reads a literal string after its quote. -/
def literalRest? (cs : List Char) : Option (List Char × List Char) :=
  let inside := fun c => isPlain c && c ≠ '\x27'
  (after? '\x27' (cs.dropWhile inside)).map fun rest => (cs.takeWhile inside, rest)

/-- Reads the quotes that end a string of several lines.  There are three, and up to two more
in front of them belong to the text. -/
def closing? (quote : Char) : Reader (List Char) := fun cs =>
  let count := (cs.takeWhile (· = quote)).length
  if 3 ≤ count ∧ count ≤ 5 then some (List.replicate (count - 3) quote, cs.drop count) else none

/-- Whether a text begins with three quotes. -/
def closes (quote : Char) (cs : List Char) : Bool := cs.take 3 = [quote, quote, quote]

/-- The text after a line break that is escaped: blanks, a line break, and all blanks and line
breaks that follow. -/
def afterEscapedBreak? (cs : List Char) : Option (List Char) :=
  (afterBreak? (skipSpace cs)).map fun cs => skip cs.length cs
where
  /-- The text after blanks and line breaks, at most `bound` of them. -/
  skip : Nat → List Char → List Char
    | 0, cs => cs
    | bound + 1, cs =>
      match afterBreak? (skipSpace cs) with
      | some rest => skip bound rest
      | none => skipSpace cs

/-- Reads a basic string of several lines after its quotes. -/
def longBasicRest? : Nat → Reader (List Char)
  | 0, _ => none
  | _, [] => none
  | bound + 1, c :: cs =>
    if closes '\x22' (c :: cs) then closing? '\x22' (c :: cs)
    else if c = '\\' then
      match afterEscapedBreak? cs with
      | some cs => longBasicRest? bound cs
      | none =>
        (escape? cs).bind fun (c, cs) =>
          (longBasicRest? bound cs).map fun (text, cs) => (c :: text, cs)
    else
      match afterBreak? (c :: cs) with
      | some cs => (longBasicRest? bound cs).map fun (text, cs) => ('\n' :: text, cs)
      | none =>
        if isPlain c then (longBasicRest? bound cs).map fun (text, cs) => (c :: text, cs)
        else none

/-- Reads a literal string of several lines after its quotes. -/
def longLiteralRest? : Nat → Reader (List Char)
  | 0, _ => none
  | _, [] => none
  | bound + 1, c :: cs =>
    if closes '\x27' (c :: cs) then closing? '\x27' (c :: cs)
    else
      match afterBreak? (c :: cs) with
      | some cs => (longLiteralRest? bound cs).map fun (text, cs) => ('\n' :: text, cs)
      | none =>
        if isPlain c then (longLiteralRest? bound cs).map fun (text, cs) => (c :: text, cs)
        else none

/-- Reads a string of any kind. -/
def string? : Reader String := fun cs =>
  let found :=
    match cs with
    | '\x22' :: '\x22' :: '\x22' :: cs =>
      longBasicRest? (cs.length + 1) ((afterBreak? cs).getD cs)
    | '\x27' :: '\x27' :: '\x27' :: cs =>
      longLiteralRest? (cs.length + 1) ((afterBreak? cs).getD cs)
    | '\x22' :: cs => basicRest? (cs.length + 1) cs
    | '\x27' :: cs => literalRest? cs
    | _ => none
  found.map fun (text, cs) => (String.ofList text, cs)

/-- Whether the character may stand in a key without quotes. -/
def isBare (c : Char) : Bool := c.isAlphanum || c = '_' || c = '-'

/-- Reads one part of a key. -/
def simpleKey? : Reader String
  | '\x22' :: cs => (basicRest? (cs.length + 1) cs).map fun (text, cs) => (String.ofList text, cs)
  | '\x27' :: cs => (literalRest? cs).map fun (text, cs) => (String.ofList text, cs)
  | cs =>
    let text := cs.takeWhile isBare
    if text.isEmpty then none else some (String.ofList text, cs.dropWhile isBare)

/-- Reads the parts of a key, with dots between them and blanks around them. -/
def keyParts? : Nat → Reader (List String)
  | 0, _ => none
  | bound + 1, cs =>
    (simpleKey? (skipSpace cs)).bind fun (part, cs) =>
      match skipSpace cs with
      | '.' :: cs => (keyParts? bound cs).map fun (parts, cs) => (part :: parts, cs)
      | cs => some ([part], cs)

/-- The depth to which arrays and inline tables nest, and the number of parts of a key. -/
def maxDepth : Nat := 79

/-- Reads a key; one with too many parts is refused. -/
def key? : Reader (List String) := fun cs =>
  (keyParts? (cs.length + 1) cs).filter (·.1.length ≤ maxDepth)

end TexGlyph.Toml
