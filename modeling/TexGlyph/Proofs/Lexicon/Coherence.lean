import TexGlyph.Proofs.Lexicon.Growth
import TexGlyph.Proofs.Lookup

/-!
# The two directions of a lexicon

A lexicon has a table for each direction, and a definition changes them by separate rules.  Still
they answer to each other (`Coherent`): what is spelled with a command is a meaning of the command,
unless the preset lets it be spelled one way only, and what a command means is spelled somehow,
unless the preset has it for the way back only.

Both are kept by a record because its character goes into both tables (`Coherent.addRecord`, for
symbols and for accents alike), and by an alias because it only copies meanings
(`Coherent.addAlias`).  The preset itself is coherent as long as none of its commands stands for two
characters, since a later entry would take the place of the earlier one (`Preset.Unambiguous`).
-/

namespace TexGlyph

/-! ### Entries of tables -/

section Table

variable {κ α : Type} [Ord κ] [Std.TransOrd κ]

/-- Whether an entry stands in the list of a key. -/
def Listed (table : Std.ExtTreeMap κ (List α) compare) (key : κ) (entry : α) : Prop :=
  entry ∈ table[key]?.getD []

variable {table later : Std.ExtTreeMap κ (List α) compare}

theorem not_listed_empty (key : κ) (entry : α) :
    ¬ Listed (∅ : Std.ExtTreeMap κ (List α) compare) key entry := by
  rw [Listed, Std.ExtTreeMap.getElem?_empty]
  exact List.not_mem_nil

theorem listed_of_getElem? {key : κ} {entries : List α} {entry : α}
    (h : table[key]? = some entries) : Listed table key entry ↔ entry ∈ entries := by
  rw [Listed, h, Option.getD_some]

/-- What is listed once stays listed. -/
theorem ListsGrow.listed (h : ListsGrow table later) {key : κ} {entry : α}
    (hentry : Listed table key entry) : Listed later key entry := by
  cases hkey : table[key]? with
  | none =>
    rw [Listed, hkey] at hentry
    cases hentry
  | some entries =>
    obtain ⟨entries', hentries', hextends⟩ := h key entries hkey
    rw [listed_of_getElem? hkey] at hentry
    rw [listed_of_getElem? hentries']
    exact hextends.subset hentry

/-- A key of a table stays one. -/
theorem ListsGrow.mem (h : ListsGrow table later) {key : κ} (hkey : key ∈ table) : key ∈ later := by
  obtain ⟨entries', hentries', _⟩ := h key _ (Std.ExtTreeMap.getElem?_eq_some_getElem hkey)
  exact Std.ExtTreeMap.mem_iff_isSome_getElem?.2 (by rw [hentries']; rfl)

theorem mem_addEntry_self [BEq α] [LawfulBEq α] (key : κ) (entry : α) :
    key ∈ addEntry table key entry := by
  rw [Std.ExtTreeMap.mem_iff_isSome_getElem?, getElem?_addEntry_self]
  rfl

variable [Std.LawfulEqOrd κ]

/-- Adding an entry lists this entry and nothing else. -/
theorem listed_addEntry [BEq α] [LawfulBEq α] {key key' : κ} {entry entry' : α} :
    Listed (addEntry table key entry) key' entry' ↔
      Listed table key' entry' ∨ key' = key ∧ entry' = entry := by
  by_cases hkey : key = key'
  · subst hkey
    rw [listed_of_getElem? (getElem?_addEntry_self table key entry), mem_appended, Listed]
    simp
  · rw [Listed, getElem?_addEntry_of_ne table hkey, Listed]
    simp [Ne.symm hkey]

/-- Adding several entries lists these and nothing else. -/
theorem listed_foldl_addEntry [BEq α] [LawfulBEq α] {ι : Type} (keyOf : ι → κ) (entryOf : ι → α)
    {is : List ι} {key : κ} {entry : α} :
    Listed (is.foldl (fun t i => addEntry t (keyOf i) (entryOf i)) table) key entry ↔
      Listed table key entry ∨ ∃ i ∈ is, key = keyOf i ∧ entry = entryOf i := by
  induction is generalizing table with
  | nil => simp
  | cons i is ih =>
    rw [List.foldl_cons, ih, listed_addEntry]
    simp [or_assoc]

/-- A key without a list gets one with the given entry. -/
theorem listed_insert_singleton {key key' : κ} (hkey : key ∉ table) {entry entry' : α} :
    Listed (table.insert key [entry]) key' entry' ↔
      Listed table key' entry' ∨ key' = key ∧ entry' = entry := by
  by_cases hsame : key = key'
  · subst hsame
    rw [listed_of_getElem? Std.ExtTreeMap.getElem?_insert_self, Listed,
      Std.ExtTreeMap.getElem?_eq_none hkey]
    simp
  · have hne : compare key key' ≠ .eq := by
      rwa [Ne, Std.LawfulEqOrd.compare_eq_iff_eq]
    rw [Listed, Std.ExtTreeMap.getElem?_insert, if_neg hne, Listed]
    simp [Ne.symm hsame]

end Table

/-! ### What a record means -/

namespace Lexicon

variable {preset : Preset} {r : SymbolRecord} {table : MeaningTable}

/-- The command of a record means its character, unless the preset keeps the character out. -/
theorem listed_addMeanings_self :
    Listed (addMeanings preset r table) r.command r.codepoint ∨ r.codepoint ∈ preset.oneWay := by
  have hmeaning : Listed (addMeaning preset r table) r.command r.codepoint ∨
      r.codepoint ∈ preset.oneWay := by
    unfold addMeaning
    split
    · exact Or.inl (listed_addEntry.2 (Or.inr ⟨rfl, rfl⟩))
    · rename_i hnew
      split
      · rename_i hskip
        exact Or.inr (List.contains_iff_mem.1 hskip)
      · exact Or.inl ((listed_insert_singleton (by simpa using hnew)).2 (Or.inr ⟨rfl, rfl⟩))
  exact hmeaning.imp_left fun h => (listed_foldl_addEntry id fun _ => r.codepoint).2 (Or.inl h)

/-- A record gives no command another meaning than its character, and only to the commands that it
names. -/
theorem listed_of_listed_addMeanings {command : String} {c : Char}
    (h : Listed (addMeanings preset r table) command c) :
    Listed table command c ∨ c = r.codepoint ∧ command ∈ r.command :: r.infoAliases := by
  rcases (listed_foldl_addEntry id fun _ => r.codepoint).1 h with h | ⟨name, hname, rfl, hc⟩
  · have hself : command = r.command ∧ c = r.codepoint →
        c = r.codepoint ∧ command ∈ r.command :: r.infoAliases := by
      rintro ⟨rfl, rfl⟩
      exact ⟨rfl, List.mem_cons_self⟩
    unfold addMeaning at h
    split at h
    · exact (listed_addEntry.1 h).imp_right hself
    · rename_i hnew
      split at h
      · exact Or.inl h
      · exact ((listed_insert_singleton (by simpa using hnew)).1 h).imp_right hself
  · exact Or.inr ⟨hc, List.mem_cons_of_mem _ hname⟩

end Lexicon

/-! ### Coherent tables -/

/-- Whether the tables of the two directions answer to each other, but for characters that are
spelled one way only and for characters that are there for the way back only. -/
structure Coherent (oneWay backOnly : List Char) (commands : CommandTable)
    (meanings : MeaningTable) : Prop where
  /-- The commands of a character mean the character. -/
  meant : ∀ (c : Char) (command : String), Listed commands c command →
    Listed meanings command c ∨ c ∈ oneWay
  /-- The characters that a command means have commands. -/
  spelled : ∀ (command : String) (c : Char), Listed meanings command c →
    c ∈ commands ∨ c ∈ backOnly

namespace Coherent

variable {oneWay backOnly : List Char} {commands : CommandTable} {meanings : MeaningTable}

theorem empty : Coherent oneWay backOnly ∅ ∅ where
  meant c command h := absurd h (not_listed_empty c command)
  spelled command c h := absurd h (not_listed_empty command c)

/-- **A record keeps the tables coherent**: its character goes into both. -/
theorem addRecord {preset : Preset} (h : Coherent preset.oneWay backOnly commands meanings)
    (r : SymbolRecord) :
    Coherent preset.oneWay backOnly (addEntry commands r.codepoint r.command)
      (Lexicon.addMeanings preset r meanings) where
  meant c command hc := by
    rcases listed_addEntry.1 hc with hc | ⟨rfl, rfl⟩
    -- What was meant before is still meant, and the new command means the character of the record.
    · exact (h.meant c command hc).imp_left (Lexicon.listsGrow_addMeanings preset r meanings).listed
    · exact Lexicon.listed_addMeanings_self
  spelled command c hc := by
    rcases Lexicon.listed_of_listed_addMeanings hc with hc | ⟨rfl, _⟩
    · exact (h.spelled command c hc).imp_left (ListsGrow.addEntry commands _ _).mem
    · exact Or.inl (mem_addEntry_self _ _)

/-- **An alias keeps the tables coherent**: it copies what its target means. -/
theorem addAlias (h : Coherent oneWay backOnly commands meanings) {target : String}
    {copied : List Char} (hcopied : meanings[target]? = some copied) (name : String) :
    Coherent oneWay backOnly commands (copied.foldl (addEntry · name ·) meanings) where
  meant c command hc :=
    (h.meant c command hc).imp_left fun hc =>
      (listed_foldl_addEntry (fun _ => name) id).2 (Or.inl hc)
  spelled command c hc := by
    -- A copied character was a meaning of the target, so it is spelled already.
    rcases (listed_foldl_addEntry (fun _ => name) id).1 hc with hc | ⟨c', hc', _, hsame⟩
    · exact h.spelled command c hc
    · rw [hsame]
      exact h.spelled target c' ((listed_of_getElem? hcopied).2 hc')

end Coherent

/-! ### The preset -/

/-- Whether no command of a preset stands for two characters. -/
def Preset.Unambiguous (preset : Preset) : Prop :=
  ∀ pair ∈ preset.pairs, ∀ pair' ∈ preset.pairs, pair.1 = pair'.1 → pair.2 = pair'.2

instance (preset : Preset) : Decidable preset.Unambiguous :=
  inferInstanceAs (Decidable (∀ pair ∈ preset.pairs, ∀ pair' ∈ preset.pairs,
    pair.1 = pair'.1 → pair.2 = pair'.2))

theorem Preset.swap_mem_pairs {preset : Preset} {c : Char} {command : String}
    (h : (c, command) ∈ preset.symbols) : (command, c) ∈ preset.pairs :=
  List.mem_append_left _ (List.mem_map_of_mem (f := Prod.swap) h)

namespace Lexicon

theorem listed_commands_ofPreset {preset : Preset} {c : Char} {command : String} :
    Listed (ofPreset preset).commands c command ↔ preset.command? c = some command := by
  rw [Listed, getElem?_commands_ofPreset]
  cases preset.command? c <;> simp [eq_comm]

theorem listed_meanings_ofPreset {preset : Preset} {command : String} {c : Char} :
    Listed (ofPreset preset).meanings command c ↔ preset.meaning? command = some c := by
  rw [Listed, getElem?_meanings_ofPreset]
  cases preset.meaning? command <;> simp [eq_comm]

/-- The tables of a preset are coherent, if no command stands for two characters. -/
theorem coherent_ofPreset {preset : Preset} (h : preset.Unambiguous) :
    Coherent preset.oneWay (preset.meanings.map Prod.snd) (ofPreset preset).commands
      (ofPreset preset).meanings where
  meant c command hc := by
    have hpair := Preset.swap_mem_pairs (mem_of_lookup_reverse (listed_commands_ofPreset.1 hc))
    -- Whatever the command means in the end, it is this character.
    obtain ⟨c', hc'⟩ := exists_lookup_reverse hpair
    obtain rfl : c' = c := h _ (mem_of_lookup_reverse hc') _ hpair rfl
    exact Or.inl (listed_meanings_ofPreset.2 hc')
  spelled command c hc := by
    have hpair := mem_of_lookup_reverse (listed_meanings_ofPreset.1 hc)
    rcases List.mem_append.1 hpair with hsymbol | hmeaning
    · obtain ⟨⟨c', command'⟩, hmem, heq⟩ := List.mem_map.1 hsymbol
      obtain ⟨rfl, rfl⟩ := Prod.mk.inj heq
      obtain ⟨found, hfound⟩ := exists_lookup_reverse hmem
      refine Or.inl (Std.ExtTreeMap.mem_iff_isSome_getElem?.2 ?_)
      rw [getElem?_commands_ofPreset, Preset.command?, hfound]
      rfl
    · exact Or.inr (List.mem_map_of_mem (f := Prod.snd) hmeaning)

/-! ### Lexicons -/

/-- Whether a lexicon is coherent for symbols, with the exceptions that the preset makes, and for
accents, where nothing is there for the way back only. -/
structure Answers (preset : Preset) (lexicon : Lexicon) : Prop where
  /-- The symbols. -/
  symbols : Coherent preset.oneWay (preset.meanings.map Prod.snd) lexicon.commands lexicon.meanings
  /-- The accents. -/
  accents : Coherent preset.oneWay [] lexicon.accentCommands lexicon.accentMeanings

/-- A definition keeps a lexicon coherent. -/
theorem Answers.step {preset : Preset} {lexicon : Lexicon} (h : lexicon.Answers preset)
    (s : LexiconStep) : (lexicon.step preset s).Answers preset := by
  cases s with
  | record r =>
    rw [Lexicon.step, Lexicon.addRecord]
    split
    · exact { h with accents := h.accents.addRecord r }
    · exact { h with symbols := h.symbols.addRecord r }
  | synonym source a =>
    rw [Lexicon.step, Lexicon.addAlias]
    split
    · exact h
    · rename_i copied hcopied
      exact { h with symbols := h.symbols.addAlias hcopied a.name }
  | malformed source line => exact h

/-- Finishing a lexicon leaves its tables as they are. -/
theorem Answers.finish {preset : Preset} {lexicon : Lexicon} (h : lexicon.Answers preset) :
    lexicon.finish.Answers preset :=
  ⟨h.symbols, h.accents⟩

/-- **The two directions of a lexicon answer to each other**, after any definitions and in the
finished lexicon, if no command of the preset stands for two characters. -/
theorem answers_steps (preset : Preset) (h : preset.Unambiguous) (steps : List LexiconStep) :
    ((ofPreset preset).steps preset steps).Answers preset ∧
      (ofSteps preset steps).Answers preset := by
  have hpreset : (ofPreset preset).Answers preset := ⟨coherent_ofPreset h, .empty⟩
  have hsteps : ((ofPreset preset).steps preset steps).Answers preset :=
    List.foldlRecOn (motive := (Answers preset ·)) steps (Lexicon.step preset) hpreset
      fun _ h s _ => h.step s
  exact ⟨hsteps, hsteps.finish⟩

/-- A radical, which the usual preset keeps from being read back, with another name that is read
back; an accent; and another name for bars that are there for the way back only. -/
def radical : List LexiconStep :=
  [.record ⟨'√', "\\sqrt", "\\mathradical", "/surd"⟩,
    .record ⟨'\u0301', "\\acute", "\\mathaccent", "acute accent"⟩,
    .synonym "in" ⟨"\\Vert", "\\|"⟩]

/-- Both exceptions occur, and the accent has none. -/
theorem answers_steps_radical :
    Preset.usual.Unambiguous ∧ (ofSteps .usual radical).Answers .usual ∧
      (ofSteps .usual radical).commands['√']? = some ["\\sqrt"] ∧
      (ofSteps .usual radical).meanings["\\sqrt"]? = none ∧
      (ofSteps .usual radical).meanings["\\surd"]? = some ['√'] ∧
      (ofSteps .usual radical).meanings["\\Vert"]? = some ['‖'] ∧
      (ofSteps .usual radical).commands['‖']? = none ∧
      (ofSteps .usual radical).accentMeanings["\\acute"]? = some ['\u0301'] := by
  have husual : Preset.usual.Unambiguous := by decide
  exact ⟨husual, (answers_steps .usual husual radical).2, by decide +kernel⟩

end Lexicon

end TexGlyph
