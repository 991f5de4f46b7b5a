/-!
# Binary floating-point numbers

Numbers of the format binary64 in exact form: a sign, and a significand times a power of two.  A
decimal is read as the nearest such number, a tie going to the even significand; what is too
large becomes infinite.
-/

namespace TexGlyph

/-- A number of the format binary64. -/
inductive Binary64 where
  /-- The number `± significand * 2 ^ exponent`. -/
  | finite (negative : Bool) (significand : Nat) (exponent : Int)
  /-- An infinity. -/
  | infinite (negative : Bool)
  /-- No number. -/
  | nan
deriving DecidableEq, Repr

/-- The integer nearest to `n / d`, a tie going to the even one. -/
def roundDiv (n d : Nat) : Nat :=
  let q := n / d
  let r := n % d
  if 2 * r < d then q
  else if d < 2 * r then q + 1
  else if q % 2 = 0 then q else q + 1

namespace Binary64

/-- The integer nearest to `n / d` in units of `2 ^ exponent`. -/
def inUnits (n d : Nat) (exponent : Int) : Nat :=
  roundDiv (n <<< (-exponent).toNat) (d <<< exponent.toNat)

/-- The least number with more than 53 binary digits. -/
def significandBound : Nat := 1 <<< 53

/-- The number nearest to `n / d`, which is not zero.  The quotient lies between the powers of
two next to the difference of the logarithms, so one of three exponents gives a significand of
53 bits. -/
def ofQuotient (negative : Bool) (n d : Nat) : Binary64 :=
  let guess := max (-1074) ((n.log2 : Int) - d.log2 - 53)
  let exponent :=
    if inUnits n d guess < significandBound then guess
    else if inUnits n d (guess + 1) < significandBound then guess + 1
    else guess + 2
  if 971 < exponent then infinite negative
  else finite negative (inUnits n d exponent) exponent

/-- The number nearest to `digits * 10 ^ scale`. -/
def ofDecimal (negative : Bool) (digits : Nat) (scale : Int) : Binary64 :=
  let size : Int := (Nat.toDigits 10 digits).length + scale
  if digits = 0 ∨ size < -330 then finite negative 0 (-1074)
  else if 310 < size then infinite negative
  else ofQuotient negative (digits * Nat.pow 10 scale.toNat) (Nat.pow 10 (-scale).toNat)

/-- Whether the number is zero of either sign. -/
def isZero : Binary64 → Bool
  | finite _ 0 _ => true
  | _ => false

example : ofDecimal false 1 0 = finite false (1 <<< 52) (-52) := by decide +kernel
example : ofDecimal false 1 400 = infinite false := by decide +kernel
example : ofDecimal true 5 (-324) = finite true 1 (-1074) := by decide +kernel

end Binary64

end TexGlyph
