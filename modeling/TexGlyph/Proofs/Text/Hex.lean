import Mathlib.Data.List.Induction
import Mathlib.Data.Nat.Digits.Defs
import TexGlyph.Text.Blank
import TexGlyph.Text.Hex

/-!
# Hexadecimal numerals

A numeral of a number is its digits, each in either case, after any number of zeros (`IsNumeral`).
Reading a numeral gives the number back: the case of a digit does not count
(`digitValue?_toLower`), zeros in front add nothing, and the digits of `16 * m + d` are those of `m`
and then `d` (`digits?_toDigits`).  Taking off the last digit the other way around, digits that are
read as a number are a numeral of it (`isNumeral_of_digits?`).  So the numerals of a code point, with
or without a plus sign, are what is read as its character (`scalar?_eq_some_iff`).
-/

namespace TexGlyph.Hex

/-- Whether digits of either case, with any number of zeros in front, are those of a number. -/
def IsNumeral (n : Nat) (cs : List Char) : Prop :=
  ∃ zeros, cs.map Char.toLower = List.replicate zeros '0' ++ Nat.toDigits 16 n

theorem digitValue?_toLower (c : Char) : digitValue? c.toLower = digitValue? c := by
  by_cases hupper : 65 ≤ c.toNat ∧ c.toNat ≤ 90
  · -- There are 26 capital letters.
    have hall : ∀ n ∈ List.range 91, 65 ≤ n →
        digitValue? (Char.ofNat n).toLower = digitValue? (Char.ofNat n) := by decide
    rw [← Char.ofNat_toNat c]
    exact hall c.toNat (List.mem_range.2 (Nat.lt_succ_of_le hupper.2)) hupper.1
  · have hsame : c.toLower = c := dif_neg fun h => hupper ⟨h.1, h.2⟩
    rw [hsame]

theorem digitValue?_digitChar {d : Nat} (hd : d < 16) : digitValue? d.digitChar = some d := by
  have hall : ∀ d ∈ List.range 16, digitValue? d.digitChar = some d := by decide
  exact hall d (List.mem_range.2 hd)

theorem digits?_map_toLower (value : Nat) (cs : List Char) :
    digits? value (cs.map Char.toLower) = digits? value cs := by
  induction cs generalizing value with
  | nil => rfl
  | cons c cs ih => simp only [List.map_cons, digits?, digitValue?_toLower, ih]

theorem digits?_append (value : Nat) (a b : List Char) :
    digits? value (a ++ b) = (digits? value a).bind (digits? · b) := by
  induction a generalizing value with
  | nil => rfl
  | cons c a ih => simp only [List.cons_append, digits?, ih, Option.bind_assoc]

theorem digits?_replicate_zero (zeros : Nat) (cs : List Char) :
    digits? 0 (List.replicate zeros '0' ++ cs) = digits? 0 cs := by
  induction zeros with
  | zero => rfl
  | succ zeros ih => exact ih

theorem digits?_toDigits (n : Nat) : digits? 0 (Nat.toDigits 16 n) = some n := by
  induction n using Nat.strong_induction_on with
  | _ n ih =>
    have hdigit : n % 16 < 16 := Nat.mod_lt n (by decide)
    by_cases hn : n < 16
    · rw [Nat.toDigits_of_lt_base hn]
      simp only [digits?, digitValue?_digitChar hn, Option.bind_some, Nat.mul_zero, Nat.zero_add]
    · have hfront : 0 < n / 16 := Nat.div_pos (Nat.le_of_not_lt hn) (by decide)
      have hsplit : Nat.toDigits 16 n = Nat.toDigits 16 (n / 16) ++ [(n % 16).digitChar] := by
        rw [← Nat.toDigits_of_lt_base hdigit,
          Nat.toDigits_append_toDigits (by decide) hfront hdigit, Nat.div_add_mod]
      rw [hsplit, digits?_append, ih (n / 16) (Nat.div_lt_self (by omega) (by decide))]
      simp only [Option.bind_some, digits?, digitValue?_digitChar hdigit, Nat.div_add_mod]

/-- A text that is read as a number has digits only. -/
theorem isSome_digitValue?_of_mem {cs : List Char} {value n : Nat} (h : digits? value cs = some n)
    {c : Char} (hc : c ∈ cs) : (digitValue? c).isSome := by
  induction cs generalizing value with
  | nil => cases hc
  | cons x cs ih =>
    obtain ⟨d, hd, hrest⟩ := Option.bind_eq_some_iff.1 h
    rcases List.mem_cons.1 hc with rfl | hc
    · rw [hd]
      rfl
    · exact ih hrest hc

/-- Digits are characters between the zero and the small letter f. -/
theorem toNat_of_digitValue? {c : Char} (h : (digitValue? c).isSome) :
    48 ≤ c.toNat ∧ c.toNat ≤ 102 := by
  simp only [digitValue?] at h
  split_ifs at h with hdecimal hupper hlower
  · omega
  · omega
  · omega
  · cases h

/-- No digit is a blank. -/
theorem isBlank_eq_false_of_digitValue? {c : Char} (h : (digitValue? c).isSome) :
    isBlank c = false := by
  have hrange := toNat_of_digitValue? h
  exact isBlank_eq_false_of_ascii (by omega)

namespace IsNumeral

variable {n : Nat} {cs : List Char}

theorem digits?_eq (h : IsNumeral n cs) : digits? 0 cs = some n := by
  obtain ⟨zeros, hcs⟩ := h
  rw [← digits?_map_toLower, hcs, digits?_replicate_zero, digits?_toDigits]

theorem ne_nil (h : IsNumeral n cs) : cs ≠ [] := by
  rintro rfl
  obtain ⟨zeros, hcs⟩ := h
  exact Nat.toDigits_ne_nil (List.append_eq_nil_iff.1 hcs.symm).2

/-- A numeral has no character that is not a digit. -/
theorem not_mem (h : IsNumeral n cs) {c : Char} (hc : digitValue? c = none) : c ∉ cs := by
  intro hmem
  have hsome := isSome_digitValue?_of_mem h.digits?_eq hmem
  rw [hc] at hsome
  cases hsome

theorem number?_eq (h : IsNumeral n cs) : number? cs = some n := by
  have hread := h.digits?_eq
  unfold number?
  split
  · exact absurd rfl h.ne_nil
  · exact absurd List.mem_cons_self (h.not_mem rfl)
  · exact absurd List.mem_cons_self (h.not_mem rfl)
  · exact hread

/-- A numeral of the code point of a character is read as the character. -/
theorem scalar?_eq {c : Char} (h : IsNumeral c.toNat cs) : scalar? cs = some c := by
  have hvalid : c.toNat.isValidChar := c.valid
  rw [scalar?, h.number?_eq, Option.bind_some, scalarOfNat?, if_pos hvalid, Char.ofNat_toNat]

end IsNumeral

/-! ### What is read -/

/-- A digit is the one that its value is written with, in either case. -/
theorem toLower_eq_digitChar {c : Char} {d : Nat} (h : digitValue? c = some d) :
    d < 16 ∧ c.toLower = d.digitChar := by
  have hall : ∀ n ∈ List.range 103, ∀ d ∈ digitValue? (Char.ofNat n),
      d < 16 ∧ (Char.ofNat n).toLower = d.digitChar := by decide
  have hrange := toNat_of_digitValue? (Option.isSome_iff_exists.2 ⟨d, h⟩)
  have hc := hall c.toNat (List.mem_range.2 (by omega))
  rw [Char.ofNat_toNat] at hc
  exact hc d h

/-- Digits that are read as a number are a numeral of it. -/
theorem isNumeral_of_digits? {cs : List Char} {n : Nat} (hne : cs ≠ [])
    (h : digits? 0 cs = some n) : IsNumeral n cs := by
  induction cs using List.reverseRecOn generalizing n with
  | nil => exact absurd rfl hne
  | append_singleton cs c ih =>
    rw [digits?_append] at h
    obtain ⟨m, hm, hlast⟩ := Option.bind_eq_some_iff.1 h
    obtain ⟨d, hd, hn⟩ := Option.bind_eq_some_iff.1 hlast
    obtain rfl : 16 * m + d = n := Option.some.inj hn
    obtain ⟨hlt, hdigit⟩ := toLower_eq_digitChar hd
    have hlower : (cs ++ [c]).map Char.toLower = cs.map Char.toLower ++ [d.digitChar] := by
      rw [List.map_append, List.map_singleton, hdigit]
    have hsmall : Nat.toDigits 16 d = [d.digitChar] := Nat.toDigits_of_lt_base hlt
    -- A digit alone is a numeral; otherwise it is appended to the numeral in front of it.
    by_cases hcs : cs = []
    · obtain rfl : 0 = m := by
        rw [hcs] at hm
        exact Option.some.inj hm
      refine ⟨0, ?_⟩
      rw [hlower, hcs, Nat.mul_zero, Nat.zero_add, hsmall]
      rfl
    · obtain ⟨zeros, hzeros⟩ := ih hcs hm
      rcases Nat.eq_zero_or_pos m with rfl | hpos
      · -- Everything in front of the last digit is zeros.
        refine ⟨zeros + 1, ?_⟩
        rw [hlower, hzeros, Nat.mul_zero, Nat.zero_add, hsmall, List.replicate_succ']
        rfl
      · refine ⟨zeros, ?_⟩
        rw [hlower, hzeros, ← hsmall, List.append_assoc,
          Nat.toDigits_append_toDigits (by decide) hpos hlt]

/-- A number is read from its numerals, with or without a plus sign. -/
theorem number?_eq_some_iff {n : Nat} {cs : List Char} :
    number? cs = some n ↔ IsNumeral n cs ∨ ∃ digits, cs = '+' :: digits ∧ IsNumeral n digits := by
  constructor
  · intro h
    unfold number? at h
    split at h
    · cases h
    · cases h
    · -- A sign alone is no number, so there are digits after the plus sign.
      rename_i digits hdigits
      exact Or.inr ⟨digits, rfl, isNumeral_of_digits? hdigits h⟩
    · rename_i hnil _ _
      exact Or.inl (isNumeral_of_digits? hnil h)
  · rintro (h | ⟨digits, rfl, h⟩)
    · exact h.number?_eq
    · unfold number?
      split
      · rename_i heq
        cases heq
      · rename_i heq
        exact absurd (List.cons.inj heq).2 h.ne_nil
      · rename_i heq
        rw [← (List.cons.inj heq).2]
        exact h.digits?_eq
      · rename_i hplus
        exact absurd rfl (hplus digits)

/-- The characters with a code point that is a scalar value. -/
theorem scalarOfNat?_eq_some_iff {n : Nat} {c : Char} :
    scalarOfNat? n = some c ↔ n = c.toNat := by
  rw [scalarOfNat?]
  constructor
  · intro h
    split_ifs at h with hvalid
    obtain rfl := Option.some.inj h
    have hof : Char.ofNat n = Char.ofNatAux n hvalid := dif_pos hvalid
    rw [hof]
    rfl
  · rintro rfl
    have hvalid : c.toNat.isValidChar := c.valid
    rw [if_pos hvalid, Char.ofNat_toNat]

/-- **A character is read from the numerals of its code point**, with or without a plus sign. -/
theorem scalar?_eq_some_iff {c : Char} {cs : List Char} :
    scalar? cs = some c ↔
      IsNumeral c.toNat cs ∨ ∃ digits, cs = '+' :: digits ∧ IsNumeral c.toNat digits := by
  rw [scalar?, Option.bind_eq_some_iff]
  simp only [scalarOfNat?_eq_some_iff, exists_eq_right, number?_eq_some_iff]

end TexGlyph.Hex
