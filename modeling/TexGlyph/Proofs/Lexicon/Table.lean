import TexGlyph.Lexicon.Building
import TexGlyph.Substitution

/-!
# Tables made from tables

Two tables of a lexicon are made entry by entry from its meanings: the replacements for the way back
(`Lexicon.symbolReplacements`) and the respellings (`Lexicon.finish`).  Both are a fold over the
entries of the meanings, and such a fold has at each key what is made of the entry at that key
(`getElem?_derive`).  A substitution that takes in the replacements of another table is such a fold,
too (`Substitution.getElem?_withTable`).
-/

namespace TexGlyph

section Table

/-! ### Tables with one entry -/

variable {κ α β : Type} [Ord κ] [Std.TransOrd κ]

/-- A table with a single entry has no other value. -/
theorem eq_of_getElem?_singleton {key key' : κ} {value value' : α}
    (h : (Std.ExtTreeMap.insert (∅ : Std.ExtTreeMap κ α compare) key value)[key']? = some value') :
    value' = value := by
  rw [Std.ExtTreeMap.getElem?_insert] at h
  split at h
  · exact (Option.some.inj h).symm
  · rw [Std.ExtTreeMap.getElem?_empty] at h
    cases h

/-! ### Derived tables -/

variable [Std.LawfulEqOrd κ]

/-- The keys of the entries are keys. -/
theorem mem_of_mem_toList {table : Std.ExtTreeMap κ α compare} {entry : κ × α}
    (h : entry ∈ table.toList) : entry.1 ∈ table := by
  rw [Std.ExtTreeMap.mem_iff_isSome_getElem?,
    Std.ExtTreeMap.mem_toList_iff_getElem?_eq_some.1 h]
  rfl

/-- A table with what `make` makes of one more entry, if it makes anything. -/
def insertMade (make : κ → α → Option β) (table : Std.ExtTreeMap κ β compare) (entry : κ × α) :
    Std.ExtTreeMap κ β compare :=
  match make entry.1 entry.2 with
  | some made => table.insert entry.1 made
  | none => table

/-- The table of what `make` makes of the entries of another table. -/
def derive (make : κ → α → Option β) (table : Std.ExtTreeMap κ α compare) :
    Std.ExtTreeMap κ β compare :=
  table.toList.foldl (insertMade make) ∅

variable {make : κ → α → Option β}

/-- Entries with other keys leave the entry of a key alone. -/
theorem getElem?_foldl_insertMade {entries : List (κ × α)} {key : κ}
    (h : ∀ entry ∈ entries, entry.1 ≠ key) (table : Std.ExtTreeMap κ β compare) :
    (entries.foldl (insertMade make) table)[key]? = table[key]? := by
  induction entries generalizing table with
  | nil => rfl
  | cons entry entries ih =>
    have hne : compare entry.1 key ≠ .eq := by
      rw [Ne, Std.LawfulEqOrd.compare_eq_iff_eq]
      exact h entry List.mem_cons_self
    have hentry : (insertMade make table entry)[key]? = table[key]? := by
      rw [insertMade]
      cases make entry.1 entry.2 with
      | none => rfl
      | some made => simp only [Std.ExtTreeMap.getElem?_insert, if_neg hne]
    rw [List.foldl_cons, ih fun x hx => h x (List.mem_cons_of_mem entry hx), hentry]

/-- A table that takes in what is made of the entries of another one has at each key what is made of
the entry at that key, or else what it had. -/
theorem getElem?_foldl_toList_insertMade (table : Std.ExtTreeMap κ α compare)
    (base : Std.ExtTreeMap κ β compare) (key : κ) :
    (table.toList.foldl (insertMade make) base)[key]? =
      (table[key]?.bind (make key)).or base[key]? := by
  cases hkey : table[key]? with
  | none =>
    have hne : ∀ entry ∈ table.toList, entry.1 ≠ key := by
      rintro ⟨_, value⟩ hmem rfl
      rw [Std.ExtTreeMap.mem_toList_iff_getElem?_eq_some.1 hmem] at hkey
      cases hkey
    rw [getElem?_foldl_insertMade hne, Option.bind_none, Option.none_or]
  | some value =>
    -- The entries before and after the one of the key have other keys.
    obtain ⟨before, after, heq⟩ :=
      List.append_of_mem (Std.ExtTreeMap.mem_toList_iff_getElem?_eq_some.2 hkey)
    have hdistinct := Std.ExtTreeMap.distinct_keys_toList (t := table)
    rw [heq, List.pairwise_append, List.pairwise_cons] at hdistinct
    obtain ⟨_, ⟨hafter, _⟩, hbefore⟩ := hdistinct
    have hbefore : ∀ entry ∈ before, entry.1 ≠ key := fun entry hentry hsame =>
      hbefore entry hentry _ List.mem_cons_self (Std.LawfulEqOrd.compare_eq_iff_eq.2 hsame)
    have hafter : ∀ entry ∈ after, entry.1 ≠ key := fun entry hentry hsame =>
      hafter entry hentry (Std.LawfulEqOrd.compare_eq_iff_eq.2 hsame.symm)
    rw [heq, List.foldl_append, List.foldl_cons, getElem?_foldl_insertMade hafter,
      Option.bind_some, insertMade]
    cases make key value with
    | none => rw [getElem?_foldl_insertMade hbefore, Option.none_or]
    | some made => rw [Std.ExtTreeMap.getElem?_insert_self, Option.some_or]

/-- **A derived table has at each key what is made of the entry at that key.** -/
theorem getElem?_derive (table : Std.ExtTreeMap κ α compare) (key : κ) :
    (derive make table)[key]? = table[key]?.bind (make key) := by
  rw [derive, getElem?_foldl_toList_insertMade, Std.ExtTreeMap.getElem?_empty, Option.or_none]

end Table

/-! ### The tables of a lexicon -/

namespace Lexicon

/-- A lexicon with a single command has no other canonical command. -/
theorem eq_of_canonical?_singleton {lexicon : Lexicon} {key c : Char} {command canonical : String}
    (hcommands : lexicon.commands = Std.ExtTreeMap.insert ∅ key [command])
    (h : lexicon.canonical? c = some canonical) : canonical = command := by
  rw [canonical?, hcommands, Option.bind_eq_some_iff] at h
  obtain ⟨commands, hc, hhead⟩ := h
  rw [eq_of_getElem?_singleton hc] at hhead
  exact (Option.some.inj hhead).symm

theorem firstMeanings_eq_derive (table : MeaningTable) :
    firstMeanings table =
      derive (fun _ meanings => meanings.head?.map fun c => String.ofList [c]) table := by
  rw [firstMeanings, derive]
  congr 1
  funext texts entry
  rcases entry with ⟨command, _ | ⟨c, meanings⟩⟩ <;> rfl

/-- A table of canonical characters has at each command the first of its characters. -/
theorem getElem?_firstMeanings (table : MeaningTable) (command : String) :
    (firstMeanings table)[command]? =
      (table[command]?.bind List.head?).map fun c => String.ofList [c] := by
  rw [firstMeanings_eq_derive, getElem?_derive, Option.map_bind]
  rfl

/-- A command is replaced by its canonical character. -/
theorem getElem?_symbolReplacements (lexicon : Lexicon) (command : String) :
    lexicon.symbolReplacements[command]? =
      (lexicon.meanings[command]?.bind List.head?).map fun c => String.ofList [c] :=
  getElem?_firstMeanings lexicon.meanings command

theorem respellings_finish_eq_derive (lexicon : Lexicon) :
    lexicon.finish.respellings = derive lexicon.respelling? lexicon.meanings := by
  simp only [finish, derive]
  congr 1
  funext respellings entry
  rw [insertMade]
  cases lexicon.respelling? entry.1 entry.2 <;> rfl

/-- A command is respelled by the canonical command of its canonical character. -/
theorem getElem?_respellings_finish (lexicon : Lexicon) (command : String) :
    lexicon.finish.respellings[command]? =
      lexicon.meanings[command]?.bind (lexicon.respelling? command) := by
  rw [respellings_finish_eq_derive, getElem?_derive]

/-- No command is respelled as itself. -/
theorem getElem?_respellings_finish_ne (lexicon : Lexicon) (command : String) :
    lexicon.finish.respellings[command]? ≠ some command := by
  intro h
  rw [getElem?_respellings_finish, Option.bind_eq_some_iff] at h
  obtain ⟨meanings, _, h⟩ := h
  rw [respelling?, Option.filter_eq_some_iff] at h
  exact absurd h.2 (by simp)

/-- A command whose canonical character has a command is respelled as that command, or is that
command itself. -/
theorem respellings_finish_getD (lexicon : Lexicon) {command canonical : String} {c : Char}
    (hmeaning : lexicon.meanings[command]?.bind List.head? = some c)
    (hcanonical : lexicon.canonical? c = some canonical) :
    lexicon.finish.respellings[command]?.getD command = canonical := by
  obtain ⟨meanings, hmeanings, hhead⟩ := Option.bind_eq_some_iff.1 hmeaning
  rw [getElem?_respellings_finish, hmeanings, Option.bind_some, respelling?, hhead,
    Option.bind_some, hcanonical]
  by_cases hsame : canonical = command
  · rw [hsame, Option.filter_some_neg (by simp), Option.getD_none]
  · rw [Option.filter_some_pos (by simpa using hsame), Option.getD_some]

end Lexicon

/-! ### The replacements of a substitution -/

namespace Substitution

/-- The replacements that a table adds win over those there were. -/
theorem getElem?_withTable (s : Substitution) (table : ReplacementTable) (key : String) :
    (s.withTable table).replacements[key]? = table[key]?.or s.replacements[key]? := by
  have hfold : (s.withTable table).replacements =
      table.toList.foldl (insertMade fun _ text => some text) s.replacements := by
    rw [withTable]
    exact (List.foldl_hom replacements fun _ _ => rfl).symm
  rw [hfold, getElem?_foldl_toList_insertMade]
  cases table[key]? <;> rfl

/-- With the Greek letters of a lexicon, their commands are replaced by them and all others as they
are without. -/
theorem getElem?_withTable_greekReplacements (s : Substitution) (lexicon : Lexicon)
    (command : String) :
    (s.withTable lexicon.greekReplacements).replacements[command]? =
      ((lexicon.greek[command]?.bind List.head?).map fun c => String.ofList [c]).or
        s.replacements[command]? := by
  rw [getElem?_withTable, Lexicon.greekReplacements, Lexicon.getElem?_firstMeanings]

/-- A command for a symbol or a Greek letter is replaced by the letter, or else by its canonical
character. -/
theorem getElem?_replacements_ofLexicon_greek (lexicon : Lexicon) (command : String) :
    (ofLexicon lexicon true true).replacements[command]? =
      ((lexicon.greek[command]?.bind List.head?).or
        (lexicon.meanings[command]?.bind List.head?)).map fun c => String.ofList [c] := by
  have hboth : ofLexicon lexicon true true =
      withTable ⟨lexicon.symbolReplacements⟩ lexicon.greekReplacements := rfl
  rw [hboth, getElem?_withTable_greekReplacements, Lexicon.getElem?_symbolReplacements]
  cases lexicon.greek[command]?.bind List.head? <;> rfl

end Substitution

end TexGlyph
