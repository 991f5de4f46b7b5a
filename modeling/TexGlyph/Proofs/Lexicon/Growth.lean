import TexGlyph.Proofs.Lexicon.Building

/-!
# Lists that only grow

A definition never takes an entry out of a list and never puts one in front: `addEntry` is the only
way in which a list changes, and it appends (`getElem?_addEntry_self`, `getElem?_addEntry_of_ne`).
So every list of a lexicon stays as the beginning of the list that comes of it (`Lexicon.Grows`), a
step at a time (`Lexicon.grows_step`) and over a whole run (`Lexicon.grows_steps`).  In particular
what is canonical once stays canonical in the finished lexicon, the entries of the preset first of
all (`Lexicon.candidates_grow`).
-/

namespace TexGlyph

/-! ### Tables of lists -/

/-- A list with an entry at its end, unless the list has it already. -/
def appended {α : Type} [BEq α] (entries : List α) (entry : α) : List α :=
  if entries.contains entry then entries else entries ++ [entry]

theorem prefix_appended {α : Type} [BEq α] (entries : List α) (entry : α) :
    entries <+: appended entries entry := by
  unfold appended
  split
  · exact List.prefix_refl entries
  · exact List.prefix_append entries [entry]

theorem mem_appended {α : Type} [BEq α] [LawfulBEq α] {entries : List α} {entry x : α} :
    x ∈ appended entries entry ↔ x ∈ entries ∨ x = entry := by
  unfold appended
  split
  · rename_i hmem
    rw [List.contains_iff_mem] at hmem
    exact ⟨Or.inl, fun h => h.elim id fun heq => heq ▸ hmem⟩
  · rw [List.mem_append, List.mem_singleton]

section Table

variable {κ α : Type} [Ord κ] [Std.TransOrd κ]

section AddEntry

variable [BEq α] (table : Std.ExtTreeMap κ (List α) compare)

/-- The list of the key gets the entry. -/
theorem getElem?_addEntry_self [LawfulBEq α] (key : κ) (entry : α) :
    (addEntry table key entry)[key]? = some (appended (table[key]?.getD []) entry) := by
  simp only [addEntry, appended]
  split
  · -- A list that has the entry is not empty, so it stands in the table.
    rename_i hcontains
    cases hkey : table[key]? with
    | none =>
      rw [hkey] at hcontains
      cases hcontains
    | some entries => rfl
  · exact Std.ExtTreeMap.getElem?_insert_self

/-- The lists of other keys stay. -/
theorem getElem?_addEntry_of_ne [Std.LawfulEqOrd κ] {key key' : κ} (h : key ≠ key') (entry : α) :
    (addEntry table key entry)[key']? = table[key']? := by
  have hne : compare key key' ≠ .eq := by
    rwa [Ne, Std.LawfulEqOrd.compare_eq_iff_eq]
  simp only [addEntry]
  split
  · rfl
  · rw [Std.ExtTreeMap.getElem?_insert, if_neg hne]

end AddEntry

/-- Whether every list of a table is the beginning of the list that a later table has in its
place. -/
def ListsGrow (table later : Std.ExtTreeMap κ (List α) compare) : Prop :=
  ∀ (key : κ) (entries : List α), table[key]? = some entries →
    ∃ entries', later[key]? = some entries' ∧ entries <+: entries'

/-- Whether the first entry of every list of a table is the first in a later table, too. -/
def FirstsStay (table later : Std.ExtTreeMap κ (List α) compare) : Prop :=
  ∀ (key : κ) (entry : α), table[key]?.bind List.head? = some entry →
    later[key]?.bind List.head? = some entry

namespace ListsGrow

variable {table later : Std.ExtTreeMap κ (List α) compare}

theorem refl (table : Std.ExtTreeMap κ (List α) compare) : ListsGrow table table :=
  fun _ entries h => ⟨entries, h, List.prefix_refl entries⟩

theorem trans (h : ListsGrow table later) {last : Std.ExtTreeMap κ (List α) compare}
    (h' : ListsGrow later last) : ListsGrow table last := by
  intro key entries hentries
  obtain ⟨entries', hentries', hextends⟩ := h key entries hentries
  obtain ⟨entries'', hentries'', hextends'⟩ := h' key entries' hentries'
  exact ⟨entries'', hentries'', hextends.trans hextends'⟩

/-- Whatever lets the lists grow at each step lets them grow to the end. -/
theorem foldl {ι : Type}
    {f : Std.ExtTreeMap κ (List α) compare → ι → Std.ExtTreeMap κ (List α) compare}
    (hf : ∀ table i, ListsGrow table (f table i)) (is : List ι)
    (table : Std.ExtTreeMap κ (List α) compare) : ListsGrow table (is.foldl f table) :=
  List.foldlRecOn (motive := ListsGrow table) is f (refl table)
    fun later h i _ => h.trans (hf later i)

/-- A list that grows keeps its first entry. -/
theorem firstsStay (h : ListsGrow table later) : FirstsStay table later := by
  intro key entry hfirst
  obtain ⟨entries, hentries, hhead⟩ := Option.bind_eq_some_iff.1 hfirst
  obtain ⟨entries', hentries', more, rfl⟩ := h key entries hentries
  rw [hentries', Option.bind_some, List.head?_append, hhead]
  rfl

variable [Std.LawfulEqOrd κ]

theorem addEntry [BEq α] [LawfulBEq α] (table : Std.ExtTreeMap κ (List α) compare) (key : κ)
    (entry : α) : ListsGrow table (addEntry table key entry) := by
  intro key' entries hentries
  by_cases hkey : key = key'
  · subst hkey
    refine ⟨_, getElem?_addEntry_self table key entry, ?_⟩
    rw [hentries]
    exact prefix_appended entries entry
  · exact ⟨entries, by rw [getElem?_addEntry_of_ne table hkey, hentries], List.prefix_refl entries⟩

/-- A list for a new key leaves the others as they are. -/
theorem insert {key : κ} (hkey : key ∉ table) (entries : List α) :
    ListsGrow table (table.insert key entries) := by
  intro key' entries' hentries
  have hne : compare key key' ≠ .eq := by
    rw [Ne, Std.LawfulEqOrd.compare_eq_iff_eq]
    rintro rfl
    rw [Std.ExtTreeMap.getElem?_eq_none hkey] at hentries
    cases hentries
  refine ⟨entries', ?_, List.prefix_refl entries'⟩
  rw [Std.ExtTreeMap.getElem?_insert, if_neg hne, hentries]

end ListsGrow

/-- A table with a list of one entry for each of the given keys. -/
def withSingles (table : Std.ExtTreeMap κ (List α) compare) (entries : List (κ × α)) :
    Std.ExtTreeMap κ (List α) compare :=
  entries.foldl (fun t entry => t.insert entry.1 [entry.2]) table

/-- Of several entries for one key the last one is in the table. -/
theorem getElem?_withSingles [Std.LawfulEqOrd κ] [BEq κ] [LawfulBEq κ]
    (table : Std.ExtTreeMap κ (List α) compare) (entries : List (κ × α)) (key : κ) :
    (withSingles table entries)[key]? =
      ((entries.reverse.lookup key).map ([·])).or table[key]? := by
  -- From the end of the list, the first entry is the last one to be asked.
  induction entries generalizing table with
  | nil => rfl
  | cons entry entries ih =>
    have hinsert : (table.insert entry.1 [entry.2])[key]? =
        (([entry].lookup key).map ([·])).or table[key]? := by
      rw [Std.ExtTreeMap.getElem?_insert, List.lookup_cons, List.lookup_nil]
      by_cases hkey : key = entry.1
      · rw [if_pos (by rw [hkey, Std.ReflOrd.compare_self]), hkey, beq_self_eq_true]
        rfl
      · have hne : compare entry.1 key ≠ .eq := by
          rw [Ne, Std.LawfulEqOrd.compare_eq_iff_eq]
          exact Ne.symm hkey
        rw [if_neg hne, beq_eq_false_iff_ne.2 hkey]
        rfl
    -- The other entries are put over the table with the first one.
    have hrest : (withSingles table (entry :: entries))[key]? =
        (withSingles (table.insert entry.1 [entry.2]) entries)[key]? := rfl
    rw [hrest, ih, hinsert, List.reverse_cons, List.lookup_append]
    cases entries.reverse.lookup key <;> rfl

end Table

/-! ### The entries of a preset -/

namespace Preset

variable (preset : Preset)

/-- The command that the preset has for a character; of several the last one is in force. -/
def command? (c : Char) : Option String := preset.symbols.reverse.lookup c

/-- The symbol commands of a preset with their characters, in the order in which they are taken:
those for the way back only come last. -/
def pairs : List (String × Char) := preset.symbols.map Prod.swap ++ preset.meanings

/-- The character that the preset has for a symbol command; of several the last one is in force. -/
def meaning? (command : String) : Option Char := preset.pairs.reverse.lookup command

/-- The letter that the preset has for a command; of several the last one is in force. -/
def letter? (command : String) : Option Char := preset.greek.reverse.lookup command

end Preset

namespace Lexicon

theorem getElem?_commands_ofPreset (preset : Preset) (c : Char) :
    (ofPreset preset).commands[c]? = (preset.command? c).map ([·]) := by
  have hfilled : (ofPreset preset).commands = withSingles ∅ preset.symbols := rfl
  rw [hfilled, getElem?_withSingles, Std.ExtTreeMap.getElem?_empty, Option.or_none]
  rfl

theorem getElem?_meanings_ofPreset (preset : Preset) (command : String) :
    (ofPreset preset).meanings[command]? = (preset.meaning? command).map ([·]) := by
  have hfilled : (ofPreset preset).meanings = withSingles ∅ preset.pairs := by
    rw [withSingles, Preset.pairs, List.foldl_append, List.foldl_map]
    rfl
  rw [hfilled, getElem?_withSingles, Std.ExtTreeMap.getElem?_empty, Option.or_none]
  rfl

theorem getElem?_greek_ofPreset (preset : Preset) (command : String) :
    (ofPreset preset).greek[command]? = (preset.letter? command).map ([·]) := by
  have hfilled : (ofPreset preset).greek = withSingles ∅ preset.greek := rfl
  rw [hfilled, getElem?_withSingles, Std.ExtTreeMap.getElem?_empty, Option.or_none]
  rfl

/-! ### Lexicons -/

/-- Whether every list of a lexicon is the beginning of the list that a later lexicon has in its
place. -/
structure Grows (lexicon later : Lexicon) : Prop where
  /-- The commands of characters. -/
  commands : ListsGrow lexicon.commands later.commands
  /-- The characters of commands. -/
  meanings : ListsGrow lexicon.meanings later.meanings
  /-- The accent commands of marks. -/
  accentCommands : ListsGrow lexicon.accentCommands later.accentCommands
  /-- The marks of accent commands. -/
  accentMeanings : ListsGrow lexicon.accentMeanings later.accentMeanings
  /-- The Greek letters of commands. -/
  greek : ListsGrow lexicon.greek later.greek

/-- Whether what comes first in a list of a lexicon comes first in a later lexicon, too. -/
structure KeepsFirsts (lexicon later : Lexicon) : Prop where
  /-- The canonical commands of characters. -/
  commands : FirstsStay lexicon.commands later.commands
  /-- The canonical characters of commands. -/
  meanings : FirstsStay lexicon.meanings later.meanings
  /-- The canonical accent commands of marks. -/
  accentCommands : FirstsStay lexicon.accentCommands later.accentCommands
  /-- The canonical marks of accent commands. -/
  accentMeanings : FirstsStay lexicon.accentMeanings later.accentMeanings
  /-- The canonical Greek letters of commands. -/
  greek : FirstsStay lexicon.greek later.greek

namespace Grows

variable {lexicon later : Lexicon}

theorem refl (lexicon : Lexicon) : lexicon.Grows lexicon :=
  ⟨.refl _, .refl _, .refl _, .refl _, .refl _⟩

theorem trans (h : lexicon.Grows later) {last : Lexicon} (h' : later.Grows last) :
    lexicon.Grows last where
  commands := h.commands.trans h'.commands
  meanings := h.meanings.trans h'.meanings
  accentCommands := h.accentCommands.trans h'.accentCommands
  accentMeanings := h.accentMeanings.trans h'.accentMeanings
  greek := h.greek.trans h'.greek

theorem keepsFirsts (h : lexicon.Grows later) : lexicon.KeepsFirsts later where
  commands := h.commands.firstsStay
  meanings := h.meanings.firstsStay
  accentCommands := h.accentCommands.firstsStay
  accentMeanings := h.accentMeanings.firstsStay
  greek := h.greek.firstsStay

/-- Finishing derives the respellings and leaves the lists as they are. -/
theorem finish (h : lexicon.Grows later) : lexicon.Grows later.finish :=
  ⟨h.commands, h.meanings, h.accentCommands, h.accentMeanings, h.greek⟩

end Grows

theorem listsGrow_addMeanings (preset : Preset) (r : SymbolRecord) (table : MeaningTable) :
    ListsGrow table (addMeanings preset r table) := by
  have hmeaning : ListsGrow table (addMeaning preset r table) := by
    unfold addMeaning
    split
    · exact .addEntry table _ _
    · rename_i hnew
      split
      · exact .refl table
      · exact .insert (by simpa using hnew) _
  exact hmeaning.trans (.foldl (fun t name => .addEntry t name r.codepoint) r.infoAliases _)

theorem grows_addRecord (preset : Preset) (lexicon : Lexicon) (r : SymbolRecord) :
    lexicon.Grows (lexicon.addRecord preset r) := by
  unfold addRecord
  -- An accent goes into the tables of accents only, and a symbol into those of symbols.
  split
  · exact { Grows.refl lexicon with
      accentCommands := .addEntry _ _ _
      accentMeanings := listsGrow_addMeanings preset r _ }
  · exact { Grows.refl lexicon with
      commands := .addEntry _ _ _
      meanings := listsGrow_addMeanings preset r _ }

theorem grows_addAlias (lexicon : Lexicon) (a : Alias) : lexicon.Grows (lexicon.addAlias a) := by
  unfold addAlias
  split
  · exact .refl lexicon
  · rename_i meanings _
    exact { Grows.refl lexicon with
      meanings := .foldl (fun t c => .addEntry t a.name c) meanings _ }

/-- A definition lets the lists grow. -/
theorem grows_step (preset : Preset) (lexicon : Lexicon) (s : LexiconStep) :
    lexicon.Grows (lexicon.step preset s) := by
  cases s with
  | record r => exact grows_addRecord preset lexicon r
  | synonym source a => exact grows_addAlias lexicon a
  | malformed source line => exact .refl lexicon

/-- Any definitions let the lists grow. -/
theorem grows_steps (preset : Preset) (lexicon : Lexicon) (steps : List LexiconStep) :
    lexicon.Grows (lexicon.steps preset steps) :=
  List.foldlRecOn (motive := lexicon.Grows) steps (Lexicon.step preset) (.refl lexicon)
    fun later h s _ => h.trans (grows_step preset later s)

/-- What comes first at any time comes first in the finished lexicon. -/
theorem keepsFirsts_ofSteps (preset : Preset) (before after : List LexiconStep) :
    ((ofPreset preset).steps preset before).KeepsFirsts (ofSteps preset (before ++ after)) := by
  rw [ofSteps, steps_append]
  exact (grows_steps preset _ after).finish.keepsFirsts

/-- **Lists only grow, and what is canonical stays canonical.**  After any definitions every list
has an entry and none twice, and more definitions, one or many, leave each list as the beginning of
the new one.  So what comes first in a list comes first in the finished lexicon, whatever definitions
come in between; and the entries of the preset that are in force are canonical whatever sources are
read. -/
theorem candidates_grow (preset : Preset) :
    (∀ before : List LexiconStep,
      ((ofPreset preset).steps preset before).Kept ∧
      (∀ after, ((ofPreset preset).steps preset before).Grows
        (((ofPreset preset).steps preset before).steps preset after)) ∧
      ∀ after, ((ofPreset preset).steps preset before).KeepsFirsts
        (ofSteps preset (before ++ after))) ∧
    ∀ sources : List Definitions,
      (∀ c command, preset.command? c = some command →
        (build preset sources).canonical? c = some command) ∧
      (∀ command c, preset.meaning? command = some c →
        (build preset sources).meanings[command]?.bind List.head? = some c) ∧
      (∀ command c, preset.letter? command = some c →
        (build preset sources).greek[command]?.bind List.head? = some c) := by
  constructor
  · intro before
    exact ⟨kept_steps preset before, grows_steps preset _, keepsFirsts_ofSteps preset before⟩
  · intro sources
    -- What the preset has is a lexicon before any definition.
    have hfirsts : (ofPreset preset).KeepsFirsts (build preset sources) :=
      keepsFirsts_ofSteps preset [] (LexiconStep.ofSources sources)
    refine ⟨?commands, ?meanings, ?letters⟩
    case commands =>
      intro c command h
      exact hfirsts.commands c command (by rw [getElem?_commands_ofPreset, h]; rfl)
    case meanings =>
      intro command c h
      exact hfirsts.meanings command c (by rw [getElem?_meanings_ofPreset, h]; rfl)
    case letters =>
      intro command c h
      exact hfirsts.greek command c (by rw [getElem?_greek_ofPreset, h]; rfl)

/-- A preset with two commands for one character, and another character for the second of them. -/
def equivalent : Preset where
  symbols := [('⇔', "\\Lra"), ('⇔', "\\iff")]
  meanings := [("\\iff", '⟺')]
  greek := [("\\pi", 'π')]

/-- Definitions of the same character and of the same command. -/
def arrows : Definitions where
  name := "in"
  records := [⟨'⇔', "\\Leftrightarrow", "\\mathrel", "/iff"⟩]

/-- The definitions come after the entries of the preset that are in force. -/
theorem candidates_grow_equivalent :
    (Preset.command? equivalent '⇔' = some "\\iff" ∧
      Preset.meaning? equivalent "\\iff" = some '⟺' ∧
      Preset.letter? equivalent "\\pi" = some 'π' ∧
      (build equivalent [arrows]).commands['⇔']? = some ["\\iff", "\\Leftrightarrow"] ∧
      (build equivalent [arrows]).meanings["\\iff"]? = some ['⟺', '⇔']) ∧
      (build equivalent [arrows]).canonical? '⇔' = some "\\iff" ∧
      (build equivalent [arrows]).meanings["\\iff"]?.bind List.head? = some '⟺' ∧
      (build equivalent [arrows]).greek["\\pi"]?.bind List.head? = some 'π' := by
  obtain ⟨hcommand, hmeaning, hletter⟩ := (candidates_grow equivalent).2 [arrows]
  have hpreset : Preset.command? equivalent '⇔' = some "\\iff" ∧
      Preset.meaning? equivalent "\\iff" = some '⟺' ∧
      Preset.letter? equivalent "\\pi" = some 'π' ∧
      (build equivalent [arrows]).commands['⇔']? = some ["\\iff", "\\Leftrightarrow"] ∧
      (build equivalent [arrows]).meanings["\\iff"]? = some ['⟺', '⇔'] := by
    decide +kernel
  exact ⟨hpreset, hcommand _ _ hpreset.1, hmeaning _ _ hpreset.2.1,
    hletter _ _ hpreset.2.2.1⟩

end Lexicon

end TexGlyph
