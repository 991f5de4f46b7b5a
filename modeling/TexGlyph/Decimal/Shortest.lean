import TexGlyph.Decimal.Binary64

/-!
# Shortest decimals

A binary number is written with the fewest digits that are read back as the same number; of two
decimals of that length the nearer one is taken, and the upper one where both are equally near.
The text is positional, however large or small the number is.
-/

namespace TexGlyph

/-- The number `digits * 10 ^ scale`. -/
structure DecimalNumber where
  /-- The digits. -/
  digits : Nat
  /-- The power of ten of the last digit. -/
  scale : Int
deriving DecidableEq, Repr

namespace Shortest

/-- Compares `a * 10 ^ i` with `n * 2 ^ j`. -/
def compareScaled (a : Nat) (i : Int) (n : Nat) (j : Int) : Ordering :=
  compare ((a * Nat.pow 10 i.toNat) <<< (-j).toNat) ((n * Nat.pow 10 (-i).toNat) <<< j.toNat)

/-- Whether a decimal lies among the reals that are read as `m * 2 ^ q`.  The numbers on both
sides are one unit away, or half a unit below a power of two; the ends of the interval belong to
it if `m` is even. -/
def readsBack (m : Nat) (q : Int) (d : DecimalNumber) : Bool :=
  let below := if m = 1 <<< 52 ∧ -1074 < q then 4 * m - 1 else 4 * m - 2
  let low := compareScaled d.digits d.scale below (q - 2)
  let high := compareScaled d.digits d.scale (4 * m + 2) (q - 2)
  if m % 2 = 0 then low != .lt && high != .gt else low == .gt && high == .lt

/-- The decimal of the given scale that is read back as `m * 2 ^ q`, if there is one: the nearer
of the two neighbours of the number. -/
def onGrid? (m : Nat) (q scale : Int) : Option DecimalNumber :=
  let floor := ((m * Nat.pow 10 (-scale).toNat) <<< q.toNat) / (Nat.pow 10 scale.toNat <<< (-q).toNat)
  let lower : DecimalNumber := ⟨floor, scale⟩
  let upper : DecimalNumber := ⟨floor + 1, scale⟩
  match readsBack m q lower, readsBack m q upper with
  | true, true =>
    if compareScaled (2 * floor + 1) scale (2 * m) q == .gt then some lower else some upper
  | true, false => some lower
  | false, true => some upper
  | false, false => none

/-- The decimal with the fewest digits for `m * 2 ^ q`, which is not zero.  The search starts
with a scale at which the number is less than one unit, and takes at most twenty finer ones. -/
def decimal (m : Nat) (q : Int) : DecimalNumber :=
  let start : Int :=
    if 0 ≤ q then (Nat.toDigits 10 (m <<< q.toNat)).length
    else
      (Nat.toDigits 10 m).length - ((Nat.toDigits 10 (1 <<< (-q).toNat)).length : Int) + 1
  ((List.range 21).findSome? fun (n : Nat) => onGrid? m q (start - n)).getD
    ⟨(m * Nat.pow 5 (-q).toNat) <<< q.toNat, min q 0⟩

/-- The positional text of a decimal. -/
def positional (d : DecimalNumber) : String :=
  let digits := Nat.toDigits 10 d.digits
  if 0 ≤ d.scale then
    String.ofList (if d.digits = 0 then digits else digits ++ List.replicate d.scale.toNat '0')
  else
    let places := (-d.scale).toNat
    let padded := List.replicate (places + 1 - digits.length) '0' ++ digits
    let whole := padded.take (padded.length - places)
    let part := (padded.drop (padded.length - places)).reverse.dropWhile (· = '0')
    String.ofList (if part.isEmpty then whole else whole ++ '.' :: part.reverse)

/-- The shortest text of a number: no point in a whole number, and no exponent. -/
def text : Binary64 → String
  | .nan => "NaN"
  | .infinite negative => if negative then "-inf" else "inf"
  | .finite negative m q =>
    (if negative then "-" else "") ++ if m = 0 then "0" else positional (decimal m q)

example : text (.ofDecimal false 25 (-1)) = "2.5" := by decide +kernel
example : text (.ofDecimal false 1 (-1)) = "0.1" := by decide +kernel
example : text (.ofDecimal true 2 0) = "-2" := by decide +kernel

end Shortest

end TexGlyph
