import TexGlyph.Text.Hex
import TexGlyph.Toml.Value

/-!
# Numbers of TOML

Whole numbers are decimal with a sign, or hexadecimal, octal or binary without one, and fit into
64 bits.  A floating-point number has a fraction or an exponent.  An underscore may stand between
two digits.
-/

namespace TexGlyph.Toml

/-- Reads the digits that follow a digit: more digits, each with or without an underscore in
front. -/
def moreDigits (isDigit : Char → Bool) : List Char → List Char × List Char
  | '_' :: c :: cs =>
    if isDigit c then
      let (digits, rest) := moreDigits isDigit cs
      (c :: digits, rest)
    else ([], '_' :: c :: cs)
  | c :: cs =>
    if isDigit c then
      let (digits, rest) := moreDigits isDigit cs
      (c :: digits, rest)
    else ([], c :: cs)
  | [] => ([], [])

/-- Reads one or more digits. -/
def digits? (isDigit : Char → Bool) : Reader (List Char)
  | c :: cs =>
    if isDigit c then
      let (digits, rest) := moreDigits isDigit cs
      some (c :: digits, rest)
    else none
  | [] => none

/-- The number that digits stand for. -/
def valueOf (base : Nat) (digits : List Char) : Nat :=
  digits.foldl (fun n c => base * n + (Hex.digitValue? c).getD 0) 0

/-- Reads a sign; `true` for a minus. -/
def sign : List Char → Bool × List Char
  | '-' :: cs => (true, cs)
  | '+' :: cs => (false, cs)
  | cs => (false, cs)

/-- Reads the digits of a decimal whole number, which has no zero in front. -/
def decimal? : Reader (List Char)
  | '0' :: cs => some (['0'], cs)
  | cs => digits? Char.isDigit cs

/-- The whole number of the given sign, if it fits into 64 bits. -/
def bounded? (negative : Bool) (n : Nat) : Option Int :=
  let bound := 1 <<< 63
  if negative then if n ≤ bound then some (-n) else none
  else if n < bound then some n else none

/-- Reads a whole number. -/
def integer? : Reader Int
  | '0' :: 'x' :: cs =>
    (digits? (fun c => (Hex.digitValue? c).isSome) cs).bind fun (ds, cs) =>
      (bounded? false (valueOf 16 ds)).map (·, cs)
  | '0' :: 'o' :: cs =>
    (digits? (fun c => '0' ≤ c ∧ c ≤ '7') cs).bind fun (ds, cs) =>
      (bounded? false (valueOf 8 ds)).map (·, cs)
  | '0' :: 'b' :: cs =>
    (digits? (fun c => c = '0' ∨ c = '1') cs).bind fun (ds, cs) =>
      (bounded? false (valueOf 2 ds)).map (·, cs)
  | cs =>
    let (negative, cs) := sign cs
    (decimal? cs).bind fun (ds, cs) => (bounded? negative (valueOf 10 ds)).map (·, cs)

/-- Reads the exponent of a floating-point number. -/
def exponent? : Reader Int
  | c :: cs =>
    if c = 'e' ∨ c = 'E' then
      let (negative, cs) := sign cs
      (digits? Char.isDigit cs).map fun (ds, cs) =>
        (if negative then -(valueOf 10 ds : Int) else valueOf 10 ds, cs)
    else none
  | [] => none

/-- The floating-point number of the given parts; positive numbers that are too large are
refused. -/
def floatOf? (negative : Bool) (digits : List Char) (scale : Int) : Option Binary64 :=
  match Binary64.ofDecimal negative (valueOf 10 digits) scale with
  | .infinite false => none
  | x => some x

/-- Reads a floating-point number. -/
def float? : Reader Binary64 := fun cs =>
  let (negative, cs) := sign cs
  match cs with
  | 'i' :: 'n' :: 'f' :: cs => some (.infinite negative, cs)
  | 'n' :: 'a' :: 'n' :: cs => some (.nan, cs)
  | cs =>
    (decimal? cs).bind fun (whole, cs) =>
      match cs with
      | '.' :: cs =>
        (digits? Char.isDigit cs).bind fun (part, cs) =>
          let (scale, cs) := (exponent? cs).getD (0, cs)
          (floatOf? negative (whole ++ part) (scale - part.length)).map (·, cs)
      | cs =>
        (exponent? cs).bind fun (scale, cs) => (floatOf? negative whole scale).map (·, cs)

end TexGlyph.Toml
