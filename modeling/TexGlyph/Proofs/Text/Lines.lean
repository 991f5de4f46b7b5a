import Mathlib.Data.List.Basic
import TexGlyph.Text.Lines

/-!
# The lines of a text

The lines make up the text, each ends with its only line feed, and the last one may have none
(`areLines_linesWithEnds`).  So texts without a line feed that are put together with a line feed
after each come apart again (`linesWithEnds_flatMap_lineFeed`).  A reader of lines without their
ends also loses a `CR` before a line feed, and sees no line after the last line feed; one to whom
this makes no difference reads each line as it was put in (`flatMap_lines_intercalate`).
-/

namespace TexGlyph

/-- Whether these are the lines of a text. -/
structure AreLines (lines : List (List Char)) (cs : List Char) : Prop where
  /-- They make up the text. -/
  flatten : lines.flatten = cs
  /-- No line is empty. -/
  ne_nil : ∀ line ∈ lines, line ≠ []
  /-- A line goes on to its first line feed. -/
  not_mem_dropLast : ∀ line ∈ lines, '\n' ∉ line.dropLast
  /-- Only the last line may have no line feed. -/
  getLast? : ∀ line ∈ lines.dropLast, line.getLast? = some '\n'

theorem ne_nil_of_mem_linesWithEnds {cs line : List Char} (h : line ∈ linesWithEnds cs) :
    line ≠ [] := by
  induction cs generalizing line with
  | nil => cases h
  | cons c cs ih =>
    rw [linesWithEnds] at h
    split at h
    · rcases List.mem_cons.1 h with rfl | h
      · exact List.cons_ne_nil _ _
      · exact ih h
    · split at h
      · rw [List.mem_singleton.1 h]
        exact List.cons_ne_nil _ _
      · rename_i first lines hlines
        rcases List.mem_cons.1 h with rfl | h
        · exact List.cons_ne_nil _ _
        · exact ih (hlines ▸ List.mem_cons_of_mem first h)

theorem not_mem_dropLast_of_mem_linesWithEnds {cs line : List Char} (h : line ∈ linesWithEnds cs) :
    '\n' ∉ line.dropLast := by
  induction cs generalizing line with
  | nil => cases h
  | cons c cs ih =>
    rw [linesWithEnds] at h
    split at h
    · rcases List.mem_cons.1 h with rfl | h
      · exact List.not_mem_nil
      · exact ih h
    · rename_i hc
      split at h
      · rw [List.mem_singleton.1 h]
        exact List.not_mem_nil
      · rename_i first lines hlines
        have hfirst : first ∈ linesWithEnds cs := hlines ▸ List.mem_cons_self
        rcases List.mem_cons.1 h with rfl | h
        · rw [List.dropLast_cons_of_ne_nil (ne_nil_of_mem_linesWithEnds hfirst), List.mem_cons]
          exact not_or_intro (Ne.symm hc) (ih hfirst)
        · exact ih (hlines ▸ List.mem_cons_of_mem first h)

/-- Every line but the last ends with a line feed. -/
theorem getLast?_of_mem_dropLast_linesWithEnds {cs line : List Char}
    (h : line ∈ (linesWithEnds cs).dropLast) : line.getLast? = some '\n' := by
  induction cs generalizing line with
  | nil => cases h
  | cons c cs ih =>
    rw [linesWithEnds] at h
    split at h
    · rename_i hc
      cases hlines : linesWithEnds cs with
      | nil =>
        rw [hlines] at h
        cases h
      | cons first lines =>
        rw [hlines, List.dropLast_cons_cons] at h
        rcases List.mem_cons.1 h with rfl | h
        · rw [hc]
          rfl
        · exact ih (hlines ▸ h)
    · split at h
      · cases h
      · rename_i first lines hlines
        cases lines with
        | nil => cases h
        | cons second lines =>
          -- The new character joins the first line, which keeps its end.
          rw [List.dropLast_cons_cons] at h
          rcases List.mem_cons.1 h with rfl | h
          · have hfirst : first.getLast? = some '\n' := by
              refine ih ?_
              rw [hlines]
              exact List.mem_cons_self
            rw [List.getLast?_cons, hfirst]
            rfl
          · exact ih (hlines ▸ List.mem_cons_of_mem first h)

theorem areLines_linesWithEnds (cs : List Char) : AreLines (linesWithEnds cs) cs where
  flatten := flatten_linesWithEnds cs
  ne_nil _ := ne_nil_of_mem_linesWithEnds
  not_mem_dropLast _ := not_mem_dropLast_of_mem_linesWithEnds
  getLast? _ := getLast?_of_mem_dropLast_linesWithEnds

/-- A line ends with its line feed. -/
theorem linesWithEnds_append_lineFeed {line : List Char} (h : '\n' ∉ line) (rest : List Char) :
    linesWithEnds (line ++ '\n' :: rest) = (line ++ ['\n']) :: linesWithEnds rest := by
  induction line with
  | nil => exact if_pos rfl
  | cons c line ih =>
    obtain ⟨hc, hline⟩ := not_or.1 (mt List.mem_cons.2 h)
    rw [List.cons_append, linesWithEnds, if_neg (Ne.symm hc), ih hline]
    rfl

/-- Texts without a line feed that are put together with a line feed after each are the lines. -/
theorem linesWithEnds_flatMap_lineFeed {lines : List (List Char)}
    (h : ∀ line ∈ lines, '\n' ∉ line) :
    linesWithEnds (lines.flatMap (· ++ ['\n'])) = lines.map (· ++ ['\n']) := by
  induction lines with
  | nil => rfl
  | cons line lines ih =>
    obtain ⟨hline, hlines⟩ := List.forall_mem_cons.1 h
    rw [List.flatMap_cons, List.append_assoc, List.singleton_append,
      linesWithEnds_append_lineFeed hline, ih hlines, List.map_cons]

/-! ### Lines without their ends -/

theorem linesWithEnds_of_not_mem {line : List Char} (hne : line ≠ []) (h : '\n' ∉ line) :
    linesWithEnds line = [line] := by
  induction line with
  | nil => exact absurd rfl hne
  | cons c line ih =>
    obtain ⟨hc, hline⟩ := not_or.1 (mt List.mem_cons.2 h)
    rw [linesWithEnds, if_neg (Ne.symm hc)]
    by_cases hnil : line = []
    · rw [hnil]
      rfl
    · rw [ih hnil hline]

/-- What has no line feed has no line break to remove. -/
theorem withoutBreak_of_not_mem {line : List Char} (h : '\n' ∉ line) : withoutBreak line = line := by
  unfold withoutBreak
  split
  · rename_i heq
    exact absurd (List.mem_reverse.1 (heq ▸ List.mem_cons_self)) h
  · rename_i heq
    exact absurd (List.mem_reverse.1 (heq ▸ List.mem_cons_self)) h
  · rfl

/-- A line loses its line feed, and a `CR` if it ends with one. -/
theorem withoutBreak_append_lineFeed (line : List Char) :
    withoutBreak (line ++ ['\n']) = line ∨ line = withoutBreak (line ++ ['\n']) ++ ['\r'] := by
  rcases List.eq_nil_or_concat line with rfl | ⟨front, c, rfl⟩
  · exact Or.inl rfl
  · by_cases hc : c = '\r'
    · refine Or.inr ?_
      simp [withoutBreak, hc]
    · refine Or.inl ?_
      simp [withoutBreak, hc]

/-- A line without its end has no line feed. -/
theorem not_mem_of_mem_lines {cs line : List Char} (h : line ∈ lines cs) : '\n' ∉ line := by
  obtain ⟨whole, hwhole, rfl⟩ := List.mem_map.1 h
  have hfront := not_mem_dropLast_of_mem_linesWithEnds hwhole
  rcases List.eq_nil_or_concat' whole with rfl | ⟨front, c, rfl⟩
  · exact absurd rfl (ne_nil_of_mem_linesWithEnds hwhole)
  · rw [List.dropLast_concat] at hfront
    -- Only the last character of a line can be a line feed, and this one is taken off.
    by_cases hc : c = '\n'
    · subst hc
      intro hmem
      rcases withoutBreak_append_lineFeed front with heq | heq
      · exact hfront (heq ▸ hmem)
      · rw [heq] at hfront
        exact hfront (List.mem_append_left _ hmem)
    · have hnone : '\n' ∉ front ++ [c] := by simp [hfront, Ne.symm hc]
      rw [withoutBreak_of_not_mem hnone]
      exact hnone

/-- What is read from lines that are put together with line feeds between them is what is read from
each, if an empty line has nothing to read and the removal of a `CR` changes nothing. -/
theorem flatMap_lines_intercalate {α : Type} {g : List Char → List α} {ls : List (List Char)}
    (hnil : g [] = []) (hls : ∀ line ∈ ls, '\n' ∉ line)
    (hg : ∀ line ∈ ls, g (withoutBreak (line ++ ['\n'])) = g line) :
    (lines (['\n'].intercalate ls)).flatMap g = ls.flatMap g := by
  induction ls with
  | nil => rfl
  | cons line ls ih =>
    obtain ⟨hline, hls⟩ := List.forall_mem_cons.1 hls
    obtain ⟨hfirst, hg⟩ := List.forall_mem_cons.1 hg
    cases ls with
    | nil =>
      -- The last line has no line feed; if it is empty, it is no line of the text at all.
      rw [List.intercalate_singleton]
      by_cases hempty : line = []
      · rw [hempty, List.flatMap_cons, hnil]
        rfl
      · rw [lines, linesWithEnds_of_not_mem hempty hline, List.map_singleton,
          withoutBreak_of_not_mem hline]
    | cons next ls =>
      rw [List.intercalate_cons_cons, List.append_assoc, List.singleton_append, lines,
        linesWithEnds_append_lineFeed hline, List.map_cons, ← lines, List.flatMap_cons, hfirst,
        ih hls hg]
      exact List.flatMap_cons.symm

/-- So it is with readings of which a line has one at most. -/
theorem filterMap_lines_intercalate {α : Type} {g : List Char → Option α} {ls : List (List Char)}
    (hnil : g [] = none) (hls : ∀ line ∈ ls, '\n' ∉ line)
    (hg : ∀ line ∈ ls, g (withoutBreak (line ++ ['\n'])) = g line) :
    (lines (['\n'].intercalate ls)).filterMap g = ls.filterMap g := by
  rw [List.filterMap_eq_flatMap_toList, List.filterMap_eq_flatMap_toList]
  refine flatMap_lines_intercalate ?_ hls fun line hline => ?_
  · rw [hnil]
    rfl
  · rw [hg line hline]

/-- And so it is with the number of lines that have a property. -/
theorem countP_lines_intercalate {p : List Char → Bool} {ls : List (List Char)}
    (hnil : p [] = false) (hls : ∀ line ∈ ls, '\n' ∉ line)
    (hp : ∀ line ∈ ls, p (withoutBreak (line ++ ['\n'])) = p line) :
    (lines (['\n'].intercalate ls)).countP p = ls.countP p := by
  have hsome (line : List Char) : (if p line then some () else none).isSome = p line := by
    cases p line <;> rfl
  have hread := filterMap_lines_intercalate (g := fun line => if p line then some () else none)
    (by rw [hnil]; rfl) hls (fun line hline => by rw [hp line hline])
  have hlength := congrArg List.length hread
  simpa only [List.length_filterMap_eq_countP, hsome] using hlength

end TexGlyph
