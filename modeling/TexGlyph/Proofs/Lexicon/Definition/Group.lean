import TexGlyph.Lexicon.Definition.Record
import TexGlyph.Proofs.Latex.Group

/-!
# The groups of a record

The reader of groups looks for the brace that closes the open group and counts the groups that are
open inside.  The text that it passes over closes all of these and what it opens itself, and no
prefix of it closes more (`ClosesGroups`).  One character changes what is to be closed by what it
opens or closes (`ClosesGroups.cons_iff`), so the text in front of the closing brace is found
exactly if it is of this kind (`closeGroup?_eq_some_iff`), and groups with balanced braces are read
as they were written (`bracedFields?_group`).
-/

namespace TexGlyph

/-- Whether a text closes the groups that it opens and `depth` more, and no prefix of it closes more
than these. -/
structure ClosesGroups (depth : Nat) (cs : List Char) : Prop where
  /-- A prefix closes what it opens and at most `depth` more. -/
  prefixes : ∀ front, front <+: cs → front.count '\x7d' ≤ front.count '\x7b' + depth
  /-- In total, exactly `depth` more are closed. -/
  total : cs.count '\x7d' = cs.count '\x7b' + depth

namespace ClosesGroups

variable {depth inner : Nat} {c : Char} {cs : List Char}

/-- Where no group is open in front, the braces are balanced. -/
theorem zero_iff : ClosesGroups 0 cs ↔ Balanced '\x7b' '\x7d' cs :=
  ⟨fun h => ⟨h.prefixes, h.total⟩, fun h => ⟨h.prefixes, h.total⟩⟩

theorem nil : ClosesGroups 0 [] :=
  zero_iff.2 (Balanced.of_not_mem List.not_mem_nil List.not_mem_nil)

theorem depth_eq_zero (h : ClosesGroups depth []) : depth = 0 := by
  have htotal := h.total
  rw [List.count_nil, List.count_nil, Nat.zero_add] at htotal
  exact htotal.symm

/-- After its first character, a text closes what that one opens more and what it closes less. -/
theorem cons_iff (h : depth + [c].count '\x7b' = inner + [c].count '\x7d') :
    ClosesGroups depth (c :: cs) ↔ ClosesGroups inner cs := by
  have hcount (x : Char) (front : List Char) :
      (c :: front).count x = [c].count x + front.count x := by
    rw [← List.singleton_append, List.count_append]
  constructor
  · intro hcloses
    refine ⟨fun front hfront => ?_, ?_⟩
    · have hle := hcloses.prefixes (c :: front) ((List.prefix_cons_inj c).2 hfront)
      rw [hcount '\x7b' front, hcount '\x7d' front] at hle
      omega
    · have htotal := hcloses.total
      rw [hcount '\x7b' cs, hcount '\x7d' cs] at htotal
      omega
  · intro hcloses
    refine ⟨fun front hfront => ?_, ?_⟩
    · rcases List.prefix_cons_iff.1 hfront with rfl | ⟨mid, rfl, hmid⟩
      · exact Nat.zero_le _
      · have hle := hcloses.prefixes mid hmid
        rw [hcount '\x7b' mid, hcount '\x7d' mid]
        omega
    · have htotal := hcloses.total
      rw [hcount '\x7b' cs, hcount '\x7d' cs]
      omega

/-- Where no group is open in front, a closing brace cannot come first. -/
theorem ne_close (h : ClosesGroups 0 (c :: cs)) : c ≠ '\x7d' := by
  rintro rfl
  exact absurd (h.prefixes ['\x7d'] ⟨cs, rfl⟩) (by decide)

end ClosesGroups

/-- The step of the search for the closing brace that passes over one character. -/
theorem closeGroup?_step_iff {depth inner : Nat} {c : Char} {cs field rest : List Char}
    (h : depth + [c].count '\x7b' = inner + [c].count '\x7d') (hc : c = '\x7d' → depth ≠ 0)
    (hinner : ∀ group, closeGroup? inner cs = some (group, rest) ↔
      cs = group ++ '\x7d' :: rest ∧ ClosesGroups inner group) :
    ((closeGroup? inner cs).map fun (group, rest) => (c :: group, rest)) = some (field, rest) ↔
      c :: cs = field ++ '\x7d' :: rest ∧ ClosesGroups depth field := by
  constructor
  · intro hmap
    obtain ⟨⟨group, _⟩, hclose, heq⟩ := Option.map_eq_some_iff.1 hmap
    obtain ⟨rfl, rfl⟩ := Prod.mk.inj heq
    obtain ⟨rfl, hcloses⟩ := (hinner group).1 hclose
    exact ⟨rfl, (ClosesGroups.cons_iff h).2 hcloses⟩
  · rintro ⟨heq, hcloses⟩
    cases field with
    -- The field cannot end here: a group is open, or there is no brace.
    | nil => exact absurd hcloses.depth_eq_zero (hc (List.cons.inj heq).1)
    | cons x group =>
      obtain ⟨rfl, hcs⟩ := List.cons.inj heq
      rw [(hinner group).2 ⟨hcs, (ClosesGroups.cons_iff h).1 hcloses⟩]
      rfl

/-- What is found in front of the closing brace, and what is left after it. -/
theorem closeGroup?_eq_some_iff {depth : Nat} {cs field rest : List Char} :
    closeGroup? depth cs = some (field, rest) ↔
      cs = field ++ '\x7d' :: rest ∧ ClosesGroups depth field := by
  induction cs generalizing depth field with
  | nil => simp [closeGroup?]
  | cons c cs ih =>
    -- An opening brace, a closing brace, and any other character; `depth` groups are open in front.
    unfold closeGroup?
    split
    · rename_i hopen
      subst hopen
      exact closeGroup?_step_iff rfl (fun h => absurd h (by decide)) fun _ => ih
    · split
      · rename_i hclose
        subst hclose
        -- The brace ends the field if no group is open, and closes a group inside it otherwise.
        cases depth with
        | zero =>
          constructor
          · intro heq
            obtain ⟨rfl, rfl⟩ := Prod.mk.inj (Option.some.inj heq)
            exact ⟨rfl, .nil⟩
          · rintro ⟨heq, hcloses⟩
            cases field with
            | nil =>
              obtain ⟨-, rfl⟩ := List.cons.inj heq
              rfl
            | cons x field => exact absurd (List.cons.inj heq).1.symm hcloses.ne_close
        | succ depth => exact closeGroup?_step_iff rfl (fun _ => Nat.succ_ne_zero depth) fun _ => ih
      · rename_i hopen hclose
        refine closeGroup?_step_iff ?_ (fun h => absurd h hclose) fun _ => ih
        rw [List.count_singleton, List.count_singleton, if_neg (by simpa using hopen),
          if_neg (by simpa using hclose)]

/-- A group with balanced braces is read as it was written, blanks in front of it aside. -/
theorem bracedFields?_group {gap field : List Char} (hgap : ∀ c ∈ gap, isBlank c = true)
    (hfield : Balanced '\x7b' '\x7d' field) (count : Nat) (rest : List Char) :
    bracedFields? (count + 1) (gap ++ '\x7b' :: (field ++ '\x7d' :: rest)) =
      (bracedFields? count rest).map (field :: ·) := by
  have hstart : trimStart (gap ++ '\x7b' :: (field ++ '\x7d' :: rest)) =
      '\x7b' :: (field ++ '\x7d' :: rest) :=
    trimStart_append_of_blank hgap fun c hc => by
      rw [← Option.some.inj hc]
      rfl
  have hclose : closeGroup? 0 (field ++ '\x7d' :: rest) = some (field, rest) :=
    closeGroup?_eq_some_iff.2 ⟨rfl, ClosesGroups.zero_iff.2 hfield⟩
  rw [bracedFields?, hstart]
  simp only [hclose]

end TexGlyph
