/-!
# Hexadecimal numbers and code points

Reading accepts one plus sign in front, digits of either case and any number of leading zeros;
a code point is read only if it is a Unicode scalar value.  Writing gives digits without
leading zeros, padded where a least width is asked for.
-/

namespace TexGlyph.Hex

/-- The value of a hexadecimal digit of either case. -/
def digitValue? (c : Char) : Option Nat :=
  let n := c.toNat
  if 0x30 ≤ n ∧ n ≤ 0x39 then some (n - 0x30)
  else if 0x41 ≤ n ∧ n ≤ 0x46 then some (n - 0x41 + 10)
  else if 0x61 ≤ n ∧ n ≤ 0x66 then some (n - 0x61 + 10)
  else none

/-- The number that digits stand for after `value`, most significant first; fails at the first
character that is no digit. -/
def digits? (value : Nat) : List Char → Option Nat
  | [] => some value
  | c :: cs => (digitValue? c).bind fun d => digits? (16 * value + d) cs

/-- Reads a nonempty hexadecimal number, with or without one plus sign. -/
def number? : List Char → Option Nat
  | [] => none
  | '+' :: [] => none
  | '+' :: cs => digits? 0 cs
  | cs => digits? 0 cs

/-- The character with code point `n`, if `n` is a scalar value. -/
def scalarOfNat? (n : Nat) : Option Char :=
  if n.isValidChar then some (Char.ofNat n) else none

/-- Reads a code point that is a scalar value. -/
def scalar? (cs : List Char) : Option Char := (number? cs).bind scalarOfNat?

/-- The lower-case digits of `n`, most significant first. -/
def lower (n : Nat) : String := String.ofList (Nat.toDigits 16 n)

/-- The upper-case digits of `n`, at least four of them. -/
def upper4 (n : Nat) : String :=
  let ds := (Nat.toDigits 16 n).map Char.toUpper
  String.ofList (List.replicate (4 - ds.length) '0' ++ ds)

example : scalar? "00E9".toList = some 'é' := by decide +kernel
example : scalar? "+e9".toList = some 'é' := by decide +kernel
example : scalar? "D800".toList = none := by decide +kernel
example : upper4 0xE9 = "00E9" := by decide +kernel

end TexGlyph.Hex
