import TexGlyph.Proofs.Spelling.Text

/-!
# Texts in pieces

A text can be spelled in pieces wherever a piece does not start with a mark that rule 4 takes up:
the fragments of the pieces make up those of the text (`fragments_spell_append`).  Such a mark
reaches back, but no further than to the last fragment (`fragments_spell_mark`).  Lines are such
pieces, so a text is spelled line by line as it is spelled as a whole, unless a line after the
first starts with a mark (`text_spellEach`).
-/

namespace TexGlyph.Speller

variable {s : Speller}

/-! ### The fragments before a piece -/

/-- Above at least one fragment, a piece of text does not touch what lies below. -/
theorem foldl_push_append_stack (cs : List Char) {top : List String} (h : top ≠ [])
    (below : List String) : cs.foldl s.push (top ++ below) = cs.foldl s.push top ++ below := by
  induction cs generalizing top with
  | nil => rfl
  | cons c cs ih =>
    have hpush : s.push (top ++ below) c = s.push top c ++ below := by
      rw [push, Action.perform_append_stack _ h]
      rfl
    rw [List.foldl_cons, List.foldl_cons, hpush]
    exact ih (Action.perform_ne_nil _ h)

/-- **A piece of text that does not start with a mark is spelled the same after anything.** -/
theorem foldl_push_eq_append {cs : List Char} (h : ∀ c ∈ cs.head?, s.overlay? c = none)
    (stack : List String) : cs.foldl s.push stack = cs.foldl s.push [] ++ stack := by
  cases cs with
  | nil => rfl
  | cons c cs =>
    -- The first character writes a fragment, and the others only see what lies above it.
    obtain ⟨hpush, hne⟩ := (s.standsAlone_actions (h c rfl)).perform_eq stack
    rw [List.foldl_cons, List.foldl_cons]
    calc cs.foldl s.push (s.push stack c)
      _ = cs.foldl s.push (s.push [] c ++ stack) := congrArg (cs.foldl s.push) hpush
      _ = cs.foldl s.push (s.push [] c) ++ stack := foldl_push_append_stack cs hne stack

theorem fragments_spell_append {b : String} (h : ∀ c ∈ b.toList.head?, s.overlay? c = none)
    (p q r : Position) (a : String) :
    (s.spell p (a ++ b)).fragments = (s.spell q a).fragments ++ (s.spell r b).fragments := by
  rw [fragments_spell, fragments_spell, fragments_spell, String.toList_append, List.foldl_append,
    foldl_push_eq_append h, List.reverse_append]

/-- A mark that rule 4 takes up changes the last fragment only, or writes one over a blank. -/
theorem fragments_spell_mark {mark : Char} {command : String}
    (h : s.overlay? mark = some command) (p q : Position) (a : String) :
    (s.spell p (a ++ String.ofList [mark])).fragments =
      (s.spell q a).fragments.dropLast ++
        [applied command ((s.spell q a).fragments.getLast?.getD " ")] := by
  obtain ⟨note, hactions⟩ := s.actions_of_overlay? h
  rw [fragments_spell, fragments_spell, String.toList_append, String.toList_ofList,
    List.foldl_append, List.foldl_cons, List.foldl_nil, push, hactions]
  cases a.toList.foldl s.push [] with
  | nil => rfl
  | cons fragment stack =>
    rw [List.reverse_cons, List.dropLast_concat, List.getLast?_concat]
    exact List.reverse_cons

/-! ### Lines -/

theorem text_spell_append {b : String} (h : ∀ c ∈ b.toList.head?, s.overlay? c = none)
    (p q r : Position) (a : String) :
    (s.spell p (a ++ b)).text = (s.spell q a).text ++ (s.spell r b).text := by
  rw [Spelling.text, fragments_spell_append h p q r]
  exact String.join_append

/-- If none of several lines starts with a mark, then their text does not. -/
theorem overlay?_head?_flatten {lines : List (List Char)}
    (h : ∀ line ∈ lines, ∀ c ∈ line.head?, s.overlay? c = none) :
    ∀ c ∈ lines.flatten.head?, s.overlay? c = none := by
  intro c hc
  rw [Option.mem_def, List.head?_flatten] at hc
  obtain ⟨line, hline, hc⟩ := List.exists_of_findSome?_eq_some hc
  exact h line hline c hc

/-- Lines that are spelled each on its own are spelled as the text they make up. -/
theorem text_spellEach {lines : List (List Char)}
    (h : ∀ line ∈ lines.tail, ∀ c ∈ line.head?, s.overlay? c = none) (p q : Position) :
    (s.spellEach "" p (lines.map String.ofList)).text =
      (s.spell q (String.ofList lines.flatten)).text := by
  induction lines generalizing p q with
  | nil => rfl
  | cons line lines ih =>
    -- No line after this one starts with a mark, so neither does the text they make up.
    have hrest := ih (fun l hl => h l (List.mem_of_mem_tail hl)) p.nextLine q
    have hhead : ∀ c ∈ (String.ofList lines.flatten).toList.head?, s.overlay? c = none := by
      rw [String.toList_ofList]
      exact overlay?_head?_flatten h
    rw [List.flatten_cons, String.ofList_append, text_spell_append hhead q p q, ← hrest]
    show String.join ((_ ++ "") :: _) = _
    rw [String.append_empty]
    exact String.join_cons

/-! ### All pieces -/

/-- **A text can be spelled in pieces.**  The fragments of a piece come after those before it,
unless it starts with a mark that rule 4 takes up; such a mark puts its command over the last
fragment, or over a blank if there is none.  So line by line gives the same text as the whole, if
no line after the first starts with such a mark. -/
theorem spell_pieces (s : Speller) :
    (∀ (p q r : Position) (a b : String), (∀ c ∈ b.toList.head?, s.overlay? c = none) →
      (s.spell p (a ++ b)).fragments = (s.spell q a).fragments ++ (s.spell r b).fragments) ∧
    (∀ (p q : Position) (a : String) (mark : Char) (command : String),
      s.overlay? mark = some command →
      (s.spell p (a ++ String.ofList [mark])).fragments =
        (s.spell q a).fragments.dropLast ++
          [applied command ((s.spell q a).fragments.getLast?.getD " ")]) ∧
    (∀ (p q : Position) (text : String),
      (∀ line ∈ (linesWithEnds text.toList).tail, ∀ c ∈ line.head?, s.overlay? c = none) →
      (s.spellLines p text).text = (s.spell q text).text) := by
  refine ⟨?pieces, ?mark, ?lines⟩
  case pieces =>
    intro p q r a b h
    exact fragments_spell_append h p q r a
  case mark =>
    intro p q a mark command h
    exact fragments_spell_mark h p q a
  case lines =>
    intro p q text h
    rw [spellLines, text_spellEach h p q, flatten_linesWithEnds, String.ofList_toList]

/-- A speller that knows no commands. -/
def unlettered : Speller where
  preferences := {}
  lexicon := { commands := ∅ }

/-- A ligature under a mark, and two lines that start with a letter. -/
theorem spell_pieces_unlettered :
    unlettered.overlay? '\u0301' = some "\\\x27" ∧
      (∀ c ∈ "é\u0301".toList.head?, unlettered.overlay? c = none) ∧
      (unlettered.spell ⟨"in", 1, 0⟩ ("aﬁ" ++ "é\u0301")).fragments =
        (unlettered.spell ⟨"in", 1, 0⟩ "aﬁ").fragments ++
          (unlettered.spell ⟨"in", 1, 0⟩ "é\u0301").fragments ∧
      (unlettered.spell ⟨"in", 1, 0⟩ ("aﬁ" ++ String.ofList ['\u0301'])).fragments =
        ["a", "f", "\\\x27\x7bi\x7d"] ∧
      (unlettered.spellLines ⟨"in", 1, 0⟩ "aﬁ\né\u0301").text =
        (unlettered.spell ⟨"in", 1, 0⟩ "aﬁ\né\u0301").text := by
  obtain ⟨hpieces, hmark, hlines⟩ := spell_pieces unlettered
  have hoverlay : unlettered.overlay? '\u0301' = some "\\\x27" := by decide +kernel
  have hletter : unlettered.overlay? 'é' = none := by decide +kernel
  have hhead : ∀ c ∈ "é\u0301".toList.head?, unlettered.overlay? c = none := by
    intro c hc
    obtain rfl : c = 'é' := by simpa [eq_comm] using hc
    exact hletter
  refine ⟨hoverlay, hhead, hpieces _ _ _ _ _ hhead, ?_, ?_⟩
  · rw [hmark ⟨"in", 1, 0⟩ ⟨"in", 1, 0⟩ "aﬁ" '\u0301' _ hoverlay]
    decide +kernel
  · apply hlines
    have htail : (linesWithEnds "aﬁ\né\u0301".toList).tail = ["é\u0301".toList] := by
      decide +kernel
    rw [htail]
    intro line hline
    rw [List.mem_singleton.1 hline]
    exact hhead

end TexGlyph.Speller
