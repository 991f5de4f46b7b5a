import TexGlyph.Lexicon.Building

/-!
# Lexicons in the making

The preset starts its lists with one entry each, and a definition only appends entries that a list
does not have.  So at any time every list has an entry and no list has one twice (`ListsKept` for a
table, `Lexicon.Kept` for a lexicon): `Lexicon.Kept.step` is the step and `Lexicon.kept_steps` the
run.  In particular every character with a list of commands has a canonical one
(`Lexicon.Kept.exists_canonical?`).
-/

namespace TexGlyph

/-! ### Tables of lists -/

section Table

variable {κ α : Type} [Ord κ] [Std.TransOrd κ]

/-- Whether every list of a table has an entry, and none twice. -/
def ListsKept (table : Std.ExtTreeMap κ (List α) compare) : Prop :=
  ∀ (key : κ) (entries : List α), table[key]? = some entries → entries ≠ [] ∧ entries.Nodup

namespace ListsKept

variable {table : Std.ExtTreeMap κ (List α) compare}

theorem empty : ListsKept (∅ : Std.ExtTreeMap κ (List α) compare) := by
  intro key entries h
  rw [Std.ExtTreeMap.getElem?_empty] at h
  cases h

theorem insert (h : ListsKept table) {key : κ} {entries : List α} (hne : entries ≠ [])
    (hnodup : entries.Nodup) : ListsKept (table.insert key entries) := by
  intro key' entries' hentries
  rw [Std.ExtTreeMap.getElem?_insert] at hentries
  split at hentries
  · obtain rfl : entries = entries' := Option.some.inj hentries
    exact ⟨hne, hnodup⟩
  · exact h key' entries' hentries

theorem insert_singleton (h : ListsKept table) (key : κ) (entry : α) :
    ListsKept (table.insert key [entry]) :=
  h.insert (List.cons_ne_nil _ _) (List.pairwise_singleton _ entry)

/-- An entry is only appended to a list that does not have it. -/
theorem addEntry [BEq α] [LawfulBEq α] (h : ListsKept table) (key : κ) (entry : α) :
    ListsKept (addEntry table key entry) := by
  have hnodup : (table[key]?.getD []).Nodup := by
    cases hkey : table[key]? with
    | none => exact List.nodup_nil
    | some entries => exact (h key entries hkey).2
  simp only [TexGlyph.addEntry]
  split
  · exact h
  · rename_i hnew
    have hnotMem : entry ∉ table[key]?.getD [] := by
      rwa [List.contains_iff_mem] at hnew
    refine h.insert (List.append_ne_nil_of_right_ne_nil _ (List.cons_ne_nil _ _)) ?_
    exact List.nodup_append.2 ⟨hnodup, List.pairwise_singleton _ entry, fun x hx y hy => by
      rw [List.mem_singleton] at hy
      rintro rfl
      exact hnotMem (hy ▸ hx)⟩

/-- Whatever keeps the lists at each step keeps them at the end. -/
theorem foldl (h : ListsKept table) {ι : Type}
    {f : Std.ExtTreeMap κ (List α) compare → ι → Std.ExtTreeMap κ (List α) compare}
    (hf : ∀ table i, ListsKept table → ListsKept (f table i)) (is : List ι) :
    ListsKept (is.foldl f table) :=
  List.foldlRecOn (motive := ListsKept) is f h fun table htable i _ => hf table i htable

end ListsKept

end Table

/-! ### Lexicons -/

namespace Lexicon

/-- Whether every list of a lexicon has an entry, and none twice. -/
structure Kept (lexicon : Lexicon) : Prop where
  /-- The commands of characters. -/
  commands : ListsKept lexicon.commands
  /-- The characters of commands. -/
  meanings : ListsKept lexicon.meanings
  /-- The accent commands of marks. -/
  accentCommands : ListsKept lexicon.accentCommands
  /-- The marks of accent commands. -/
  accentMeanings : ListsKept lexicon.accentMeanings
  /-- The Greek letters of commands. -/
  greek : ListsKept lexicon.greek

theorem kept_ofPreset (preset : Preset) : (ofPreset preset).Kept where
  commands := ListsKept.empty.foldl (fun _ _ h => h.insert_singleton _ _) preset.symbols
  meanings :=
    (ListsKept.empty.foldl (fun _ _ h => h.insert_singleton _ _) preset.symbols).foldl
      (fun _ _ h => h.insert_singleton _ _) preset.meanings
  accentCommands := .empty
  accentMeanings := .empty
  greek := ListsKept.empty.foldl (fun _ _ h => h.insert_singleton _ _) preset.greek

theorem listsKept_addMeanings (preset : Preset) (r : SymbolRecord) {table : MeaningTable}
    (h : ListsKept table) : ListsKept (addMeanings preset r table) := by
  have hmeaning : ListsKept (addMeaning preset r table) := by
    unfold addMeaning
    split
    · exact h.addEntry _ _
    · split
      · exact h
      · exact h.insert_singleton _ _
  exact hmeaning.foldl (fun _ _ h => h.addEntry _ _) r.infoAliases

namespace Kept

variable {lexicon : Lexicon}

theorem addRecord (h : lexicon.Kept) (preset : Preset) (r : SymbolRecord) :
    (lexicon.addRecord preset r).Kept := by
  unfold Lexicon.addRecord
  split
  · exact { h with
      accentCommands := h.accentCommands.addEntry _ _
      accentMeanings := listsKept_addMeanings preset r h.accentMeanings }
  · exact { h with
      commands := h.commands.addEntry _ _
      meanings := listsKept_addMeanings preset r h.meanings }

theorem addAlias (h : lexicon.Kept) (a : Alias) : (lexicon.addAlias a).Kept := by
  unfold Lexicon.addAlias
  split
  · exact h
  · rename_i meanings _
    exact { h with meanings := h.meanings.foldl (fun _ _ h => h.addEntry _ _) meanings }

/-- A definition keeps the lists. -/
theorem step (h : lexicon.Kept) (preset : Preset) (s : LexiconStep) :
    (lexicon.step preset s).Kept := by
  cases s with
  | record r => exact h.addRecord preset r
  | synonym source a => exact h.addAlias a
  | malformed source line => exact h

theorem finish (h : lexicon.Kept) : lexicon.finish.Kept :=
  ⟨h.commands, h.meanings, h.accentCommands, h.accentMeanings, h.greek⟩

/-- A character with commands has a canonical one. -/
theorem exists_canonical? (h : lexicon.Kept) {c : Char} (hc : c ∈ lexicon.commands) :
    ∃ command, lexicon.canonical? c = some command := by
  have hcommands := Std.ExtTreeMap.getElem?_eq_some_getElem hc
  obtain ⟨command, commands, heq⟩ := List.exists_cons_of_ne_nil (h.commands c _ hcommands).1
  rw [heq] at hcommands
  exact ⟨command, by rw [canonical?, hcommands]; rfl⟩

end Kept

theorem steps_append (preset : Preset) (lexicon : Lexicon) (before after : List LexiconStep) :
    lexicon.steps preset (before ++ after) = (lexicon.steps preset before).steps preset after :=
  List.foldl_append

/-- **Any definitions keep the lists of a preset.** -/
theorem kept_steps (preset : Preset) (steps : List LexiconStep) :
    ((ofPreset preset).steps preset steps).Kept :=
  List.foldlRecOn (motive := Kept) steps (Lexicon.step preset) (kept_ofPreset preset)
    fun _ h s _ => h.step preset s

/-- The finished lexicon of a preset and any definitions, whether they come one by one or, as in
`build`, from sources. -/
def ofSteps (preset : Preset) (steps : List LexiconStep) : Lexicon :=
  ((ofPreset preset).steps preset steps).finish

theorem kept_ofSteps (preset : Preset) (steps : List LexiconStep) : (ofSteps preset steps).Kept :=
  (kept_steps preset steps).finish

end Lexicon

end TexGlyph
