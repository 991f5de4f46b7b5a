/-!
# Look-ups in lists of pairs

Small tables are lists of pairs.  A look-up gives the first entry of a key, so a table that is filled
from a list, where a later entry takes the place of an earlier one, is looked up from the end of the
list.  Either way what is found is an entry (`mem_of_lookup`, `mem_of_lookup_reverse`), and a key of
an entry is found (`exists_lookup`, `exists_lookup_reverse`).
-/

namespace TexGlyph

section Lookup

variable {κ α : Type} [BEq κ] [LawfulBEq κ] {table : List (κ × α)}

/-- What a look-up finds is an entry of the table. -/
theorem mem_of_lookup {key : κ} {a : α} (h : table.lookup key = some a) : (key, a) ∈ table := by
  obtain ⟨before, after, heq, _⟩ := List.lookup_eq_some_iff.1 h
  rw [heq]
  exact List.mem_append_right before List.mem_cons_self

/-- The key of an entry is found. -/
theorem exists_lookup {entry : κ × α} (h : entry ∈ table) :
    ∃ found, table.lookup entry.1 = some found := by
  rw [← Option.isSome_iff_exists, List.lookup_isSome_iff]
  exact ⟨entry, h, beq_self_eq_true entry.1⟩

theorem mem_of_lookup_reverse {key : κ} {a : α} (h : table.reverse.lookup key = some a) :
    (key, a) ∈ table :=
  List.mem_reverse.1 (mem_of_lookup h)

theorem exists_lookup_reverse {entry : κ × α} (h : entry ∈ table) :
    ∃ found, table.reverse.lookup entry.1 = some found :=
  exists_lookup (List.mem_reverse.2 h)

end Lookup

end TexGlyph
