import Mathlib.Data.List.ReduceOption
import TexGlyph.Lexicon.Definition.Basic
import TexGlyph.Proofs.Text.Lines

/-!
# The lines of a definition file

A line that begins with the keyword of records, blanks in front aside, is a record line
(`IsRecordLine`).  What it says does not depend on the other lines nor on its number
(`recordReading?`), so the records of a file are those of its lines, in order
(`Definitions.records_ofText`), and a file is free of malformed lines exactly if every record line
can be read (`Definitions.malformed_ofText_eq_nil_iff`).
-/

namespace TexGlyph

/-- Whether a line begins with the keyword of records, blanks in front aside. -/
def IsRecordLine (line : List Char) : Prop := SymbolRecord.keyword.toList <+: trimStart line

instance (line : List Char) : Decidable (IsRecordLine line) := inferInstanceAs (Decidable (_ <+: _))

/-- A `CR` at the end makes no record line. -/
theorem isRecordLine_append_return_iff {line : List Char} :
    IsRecordLine (line ++ ['\r']) ↔ IsRecordLine line := by
  have hkeyword : '\r' ∉ SymbolRecord.keyword.toList := by decide
  rw [IsRecordLine, IsRecordLine, trimStart, List.dropWhile_append, ← trimStart]
  split
  · rename_i hempty
    rw [List.isEmpty_iff.1 hempty]
    rfl
  · rw [List.prefix_concat_iff]
    refine or_iff_right fun heq => hkeyword ?_
    rw [heq]
    exact List.mem_append_right _ List.mem_cons_self

/-- Whether a line is a record line does not depend on how it ends. -/
theorem isRecordLine_withoutBreak_iff {line : List Char} :
    IsRecordLine (withoutBreak (line ++ ['\n'])) ↔ IsRecordLine line := by
  rcases withoutBreak_append_lineFeed line with heq | heq
  · rw [heq]
  · conv_rhs => rw [heq]
    exact isRecordLine_append_return_iff.symm

/-- What a record line says, if a record can be read from it; any other line says nothing. -/
def recordReading? (line : List Char) : Option (Option SymbolRecord) :=
  (SymbolRecord.afterKeyword? line).map SymbolRecord.read?

theorem recordReading?_eq_none_iff {line : List Char} :
    recordReading? line = none ↔ ¬ IsRecordLine line := by
  rw [recordReading?, Option.map_eq_none_iff, SymbolRecord.afterKeyword?, IsRecordLine,
    ← List.isPrefixOf_iff_prefix]
  simp

/-- The records of lines are those that their readings give, whatever the numbers. -/
theorem filterMap_getRight?_recordLines (number : Nat) (ls : List (List Char)) :
    (recordLines number ls).filterMap Sum.getRight? =
      (ls.filterMap recordReading?).reduceOption := by
  induction ls generalizing number with
  | nil => rfl
  | cons line ls ih =>
    rw [recordLines, List.filterMap_append, ih, List.filterMap_cons, recordLine?, recordReading?]
    cases SymbolRecord.afterKeyword? line with
    | none => rfl
    | some rest =>
      simp only [Option.map_some]
      cases SymbolRecord.read? rest with
      | none => rfl
      | some r => rfl

/-- Lines that cannot be read are those whose readings give no record, whatever the numbers. -/
theorem filterMap_getLeft?_recordLines_eq_nil_iff (number : Nat) (ls : List (List Char)) :
    (recordLines number ls).filterMap Sum.getLeft? = [] ↔ none ∉ ls.filterMap recordReading? := by
  induction ls generalizing number with
  | nil => simp [recordLines]
  | cons line ls ih =>
    rw [recordLines, List.filterMap_append, List.append_eq_nil_iff, ih, List.filterMap_cons,
      recordLine?, recordReading?]
    cases SymbolRecord.afterKeyword? line with
    | none => simp
    | some rest =>
      simp only [Option.map_some]
      cases SymbolRecord.read? rest with
      | none => simp
      | some r => simp

theorem length_recordLines (number : Nat) (ls : List (List Char)) :
    (recordLines number ls).length = ls.countP (IsRecordLine ·) := by
  induction ls generalizing number with
  | nil => rfl
  | cons line ls ih =>
    have hline : (recordLine? number line).isSome = decide (IsRecordLine line) := by
      rw [recordLine?, Option.isSome_map, SymbolRecord.afterKeyword?, Bool.eq_iff_iff,
        decide_eq_true_iff, IsRecordLine, ← List.isPrefixOf_iff_prefix]
      simp
    rw [recordLines, List.length_append, ih, List.countP_cons, Option.length_toList, hline,
      Nat.add_comm]

namespace Definitions

/-- The records of a file are those of its record lines, in order. -/
theorem records_ofText (name text : String) :
    (ofText name text).records =
      ((lines text.toList).filterMap recordReading?).reduceOption :=
  filterMap_getRight?_recordLines 1 (lines text.toList)

/-- A file has no malformed line if a record can be read from every record line. -/
theorem malformed_ofText_eq_nil_iff (name text : String) :
    (ofText name text).malformed = [] ↔
      none ∉ (lines text.toList).filterMap recordReading? :=
  filterMap_getLeft?_recordLines_eq_nil_iff 1 (lines text.toList)

/-- Every record line is either read or reported. -/
theorem length_records_add_length_malformed (name text : String) :
    (ofText name text).records.length + (ofText name text).malformed.length =
      (lines text.toList).countP (IsRecordLine ·) := by
  have hsplit (found : List (MalformedLine ⊕ SymbolRecord)) :
      (found.filterMap Sum.getRight?).length + (found.filterMap Sum.getLeft?).length =
        found.length := by
    have hright (x : MalformedLine ⊕ SymbolRecord) : x.getRight?.isSome = x.isRight := by
      cases x <;> rfl
    have hleft (x : MalformedLine ⊕ SymbolRecord) : x.getLeft?.isSome = !x.isRight := by
      cases x <;> rfl
    rw [List.length_filterMap_eq_countP, List.length_filterMap_eq_countP,
      List.length_eq_countP_add_countP Sum.isRight]
    simp only [hright, hleft, Bool.not_eq_true, Bool.decide_eq_false]
  rw [← length_recordLines 1]
  exact hsplit _

/-- A file without record lines has no records and no malformed lines. -/
theorem ofText_of_no_recordLine (name : String) {text : String}
    (h : ∀ line ∈ lines text.toList, ¬ IsRecordLine line) :
    (ofText name text).records = [] ∧ (ofText name text).malformed = [] := by
  have hnone : (lines text.toList).filterMap recordReading? = [] :=
    List.filterMap_eq_nil_iff.2 fun line hline => recordReading?_eq_none_iff.2 (h line hline)
  rw [records_ofText, malformed_ofText_eq_nil_iff, hnone]
  exact ⟨rfl, List.not_mem_nil⟩

end Definitions

end TexGlyph
