import TexGlyph.Unicode.Decomposition.Basic

/-!
# Decomposition ends

No character decomposes, directly or through others, into itself: in the table of mappings every
chain of decompositions has at most three steps.  `Decomposition.rank` counts the steps that can
follow a character, and `rank_lt` is the measure for every recursion along decompositions.
-/

namespace TexGlyph

/-- Whether every chain of mappings from code point `n` ends within the given number of steps. -/
def settles : Nat → Nat → Bool
  | 0, n => (mappingAt? n).isNone
  | steps + 1, n =>
    match mappingAt? n with
    | none => true
    | some m => m.2.all (settles steps)

theorem settles_succ {steps n : Nat} (h : settles steps n = true) :
    settles (steps + 1) n = true := by
  induction steps generalizing n with
  | zero =>
    simp only [settles, Option.isNone_iff_eq_none] at h
    simp [settles, h]
  | succ steps ih =>
    rw [settles] at h ⊢
    split at h
    · rfl
    · rename_i m hm
      simp only [List.all_eq_true] at h ⊢
      exact fun k hk => ih (h k hk)

/-- Every image in the table is made of characters with at most two further steps. -/
theorem settles_two_of_mem_images :
    mappingRuns.all (fun run => run.images.all (fun image => image.all (settles 2))) = true := by
  decide +kernel

/-- Code point zero, the stand-in for a number that is no code point, has no mapping. -/
theorem settles_zero_zero : settles 0 0 = true := by decide +kernel

namespace Decomposition

/-- The number of decomposition steps that can follow a character, at most three. -/
def rank (c : Char) : Nat :=
  if settles 0 c.toNat then 0
  else if settles 1 c.toNat then 1
  else if settles 2 c.toNat then 2
  else 3

theorem rank_le_of_settles {c : Char} {steps : Nat} (h : settles steps c.toNat = true) :
    rank c ≤ steps := by
  rw [rank]
  match steps with
  | 0 => simp [h]
  | 1 => split <;> simp
  | 2 =>
    split
    · exact Nat.zero_le 2
    · split <;> simp
  | n + 3 =>
    split
    · exact Nat.zero_le _
    · split
      · omega
      · split <;> omega

theorem settles_ofNat {steps n : Nat} (h : settles steps n = true) :
    settles steps (Char.ofNat n).toNat = true := by
  by_cases hn : n.isValidChar
  · have heq : (Char.ofNat n).toNat = n := by
      rw [Char.ofNat, dif_pos hn]
      rfl
    rw [heq]
    exact h
  · have heq : (Char.ofNat n).toNat = 0 := by
      rw [Char.ofNat, dif_neg hn]
      rfl
    rw [heq]
    clear h heq hn
    induction steps with
    | zero => exact settles_zero_zero
    | succ steps ih => exact settles_succ ih

/-- A character of a mapping has a smaller rank than the character mapped. -/
theorem rank_lt_of_mem_image {c d : Char} {m : Mapping} (h : Mapping.of? c = some m)
    (hd : d ∈ m.image) : rank d < rank c := by
  rw [Mapping.of?, Option.map_eq_some_iff] at h
  obtain ⟨⟨tag, image⟩, hat, rfl⟩ := h
  obtain ⟨k, hk, rfl⟩ := List.mem_map.1 hd
  have below : ∀ steps, settles (steps + 1) c.toNat = true → settles steps k = true := by
    intro steps hs
    rw [settles, hat] at hs
    exact List.all_eq_true.1 hs k hk
  have htwo : settles 2 k = true := by
    obtain ⟨run, hrun, _, i, himg, _⟩ := Mapping.exists_run_of_mappingAt? hat
    have hall := List.all_eq_true.1 settles_two_of_mem_images run hrun
    exact List.all_eq_true.1 (List.all_eq_true.1 hall image (List.mem_of_getElem? himg)) k hk
  have hzero : settles 0 c.toNat = false := by simp [settles, hat]
  rw [rank.eq_def c, hzero]
  simp only [Bool.false_eq_true, ↓reduceIte]
  split
  · rename_i h₁
    exact Nat.lt_succ_of_le (rank_le_of_settles (settles_ofNat (below 0 h₁)))
  · split
    · rename_i h₂
      exact Nat.lt_succ_of_le (rank_le_of_settles (settles_ofNat (below 1 h₂)))
    · exact Nat.lt_succ_of_le (rank_le_of_settles (settles_ofNat htwo))

/-- A character of a decomposition has a smaller rank than the character decomposed. -/
theorem rank_lt {c x : Char} {d : Decomposition} (h : of? c = some d) (hx : x ∈ d.scalars) :
    rank x < rank c := by
  rw [of?, Option.bind_eq_some_iff] at h
  obtain ⟨m, hm, hd⟩ := h
  exact rank_lt_of_mem_image hm (mem_image_of_ofMapping? hd hx)

end Decomposition

end TexGlyph
