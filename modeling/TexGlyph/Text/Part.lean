/-!
# Parts of a text

Finding one text inside another, and cutting its first occurrence out.
-/

namespace TexGlyph

/-- Removes the first occurrence of `part` from a text, if there is one. -/
def cutFirst? (part : List Char) : List Char → Option (List Char)
  | [] => if part.isEmpty then some [] else none
  | c :: cs =>
    if part.isPrefixOf (c :: cs) then some ((c :: cs).drop part.length)
    else (cutFirst? part cs).map (c :: ·)

/-- Whether `part` occurs in a text. -/
def occursIn (part text : String) : Bool := (cutFirst? part.toList text.toList).isSome

/-- A part can be cut out of the texts that have it somewhere. -/
theorem isSome_cutFirst?_iff {part cs : List Char} :
    (cutFirst? part cs).isSome = true ↔ part <:+: cs := by
  induction cs with
  | nil =>
    rw [cutFirst?, List.infix_nil]
    cases part <;> simp
  | cons c cs ih =>
    rw [cutFirst?, List.infix_cons_iff, ← List.isPrefixOf_iff_prefix]
    by_cases h : part.isPrefixOf (c :: cs) = true
    · simp [h]
    · rw [if_neg h, Option.isSome_map, ih]
      simp [h]

/-- What is cut out stood in the text, and everything else is left. -/
theorem exists_of_cutFirst? {part cs rest : List Char} (h : cutFirst? part cs = some rest) :
    ∃ front back, cs = front ++ part ++ back ∧ rest = front ++ back := by
  induction cs generalizing rest with
  | nil =>
    rw [cutFirst?] at h
    split at h
    · rename_i hempty
      exact ⟨[], [], by simp [List.isEmpty_iff.1 hempty], (Option.some.inj h).symm⟩
    · cases h
  | cons c cs ih =>
    rw [cutFirst?] at h
    split at h
    · rename_i hpart
      obtain ⟨back, hback⟩ := List.isPrefixOf_iff_prefix.1 hpart
      rw [← hback, List.drop_left] at h
      exact ⟨[], back, hback.symm, (Option.some.inj h).symm⟩
    · obtain ⟨tail, htail, rfl⟩ := Option.map_eq_some_iff.1 h
      obtain ⟨front, back, rfl, rfl⟩ := ih htail
      exact ⟨c :: front, back, rfl, rfl⟩

theorem occursIn_iff {part text : String} :
    occursIn part text = true ↔ part.toList <:+: text.toList := isSome_cutFirst?_iff

end TexGlyph
