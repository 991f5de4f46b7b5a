import Mathlib.Data.List.Basic
import TexGlyph.Proofs.Latex.Substitution
import TexGlyph.Proofs.Text.Lines

/-!
# Sources line by line

A line feed closes whatever token is open before it: it ends a control word and a comment, and as
the name of a control sequence it is the whole name.  Only a run of plain text can go on after it,
and plain text stays as it is wherever it is cut.  So a source can be cut after any line feed
(`replaced_append_of_lineFeed`), and converting it as a whole or line by line is the same
(`convert_lines`).
-/

namespace TexGlyph

namespace Substitution

open Token Category

variable {s : Substitution}

/-! ### Cutting a source -/

/-- A token that ends with a line feed turns into the same text whatever comes after it. -/
theorem replaced_source_append_of_lineFeed {t : Token} (ht : t.Ends none)
    (hlast : t.source.getLast? = some '\n') (rest : List Char) :
    s.replaced (t.source ++ rest) = (s.textOf t).toList ++ s.replaced rest := by
  have hmem := List.mem_of_getLast? hlast
  cases ht with
  | word _ hname =>
    -- A line feed is no letter, so it is in no control word.
    rw [source, String.toList_ofList] at hmem
    rcases List.mem_cons.1 hmem with h | h
    · cases h
    · exact absurd (hname _ h) (by decide)
  | symbol hc => exact replaced_source_append (.symbol hc)
  | bare => exact absurd hmem (by decide)
  | comment hwords =>
    rw [source, String.toList_ofList] at hmem
    rcases List.mem_cons.1 hmem with h | h
    · cases h
    · exact absurd (hwords _ h) (by decide)
  | beginGroup => exact absurd hmem (by decide)
  | endGroup => exact absurd hmem (by decide)
  | active hc =>
    rw [source, List.mem_singleton] at hmem
    rcases hc with rfl | rfl | rfl <;> cases hmem
  | @text run _ _ hrun =>
    have htext : s.textOf (text (String.ofList run)) =
        String.ofList (text (String.ofList run)).source := by
      refine textOf_of_no_replacement ?_
      intro _ hkey
      cases hkey
    rw [htext, String.toList_ofList, source, String.toList_ofList]
    exact replaced_append_of_isText hrun rest

/-- **A source can be cut after a line feed.**  The induction is on the tokens of the front: all
but the last one end inside it, and the last one ends with the line feed. -/
theorem replaced_append_of_lineFeed {front : List Char} (h : front.getLast? = some '\n')
    (rest : List Char) : s.replaced (front ++ rest) = s.replaced front ++ s.replaced rest := by
  induction front using scanInduction with
  | nil => cases h
  | token t later ht ih =>
    by_cases hnil : later = []
    · subst hnil
      rw [replaced_source_append ht, replaced_nil, List.append_nil, List.append_nil]
      exact replaced_source_append_of_lineFeed ht (by rwa [List.append_nil] at h) rest
    · have hhead : (later ++ rest).head? = later.head? := List.head?_append_of_ne_nil later hnil
      rw [List.getLast?_append_of_ne_nil t.source hnil] at h
      rw [List.append_assoc, replaced_source_append (hhead ▸ ht), ih h, replaced_source_append ht,
        List.append_assoc]

/-- Lines that end with line feeds, but for the last one, can be converted one by one. -/
theorem replaced_flatten {lines : List (List Char)}
    (h : ∀ line ∈ lines.dropLast, line.getLast? = some '\n') :
    s.replaced lines.flatten = lines.flatMap s.replaced := by
  induction lines with
  | nil => exact replaced_nil
  | cons line lines ih =>
    cases lines with
    | nil => simp
    | cons second lines =>
      rw [List.dropLast_cons_cons] at h
      obtain ⟨hline, hlines⟩ := List.forall_mem_cons.1 h
      rw [List.flatten_cons, replaced_append_of_lineFeed hline, ih hlines]
      rfl

/-! ### Conversion -/

/-- **A source can be converted line by line.**  What comes before a cut is converted without what
comes after it, as long as it is empty or ends with a line feed; so the lines of a source, each with
its line feed, are converted one by one to what the whole source is converted to. -/
theorem convert_lines (s : Substitution) :
    (∀ a b : String, a = "" ∨ a.toList.getLast? = some '\n' →
      s.convert (a ++ b) = s.convert a ++ s.convert b) ∧
      ∀ source : String, s.convert source =
        String.join ((linesWithEnds source.toList).map fun line => s.convert (String.ofList line)) := by
  constructor
  · intro a b h
    rw [← String.toList_inj, String.toList_append, toList_convert, toList_convert, toList_convert,
      String.toList_append]
    rcases h with rfl | h
    · rw [String.toList_empty, List.nil_append, replaced_nil, List.nil_append]
    · exact replaced_append_of_lineFeed h b.toList
  · intro source
    have hends : ∀ line ∈ (linesWithEnds source.toList).dropLast, line.getLast? = some '\n' :=
      fun _ hline => getLast?_of_mem_dropLast_linesWithEnds hline
    have hlines := replaced_flatten (s := s) hends
    rw [flatten_linesWithEnds] at hlines
    rw [← String.toList_inj, toList_convert, hlines, String.toList_join, List.flatMap_map]
    simp only [toList_convert, String.toList_ofList]

/-- Replaces a control word and a backslash in front of a line feed. -/
def breaking : Substitution :=
  Substitution.withReplacement (Substitution.withReplacement {} "\\to" "→") "\\\n" "¶"

/-- A comment, a line feed that is the name of a control sequence, and a run of plain text that goes
on after the cut. -/
theorem convert_lines_breaking :
    "\\to% \\to\r\n\\\n\n".toList.getLast? = some '\n' ∧
      breaking.convert ("\\to% \\to\r\n\\\n\n" ++ "to \\to") = "→% \\to\r\n¶\nto →" ∧
      breaking.convert ("\\to% \\to\r\n\\\n\n" ++ "to \\to") =
        breaking.convert "\\to% \\to\r\n\\\n\n" ++ breaking.convert "to \\to" := by
  have hlast : "\\to% \\to\r\n\\\n\n".toList.getLast? = some '\n' := by decide
  exact ⟨hlast, by decide +kernel, (convert_lines breaking).1 _ _ (Or.inr hlast)⟩

end Substitution

end TexGlyph
