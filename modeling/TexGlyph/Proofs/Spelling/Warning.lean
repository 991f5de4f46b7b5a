import TexGlyph.Proofs.Spelling.Idempotence

/-!
# Warnings about characters that are left

Two kinds of warnings say that a character was left as it is: it could not be converted, or the tag
of its mapping is not supported (`Note.reportsLeft`).  Where accents are wanted and commands are
ASCII, these warnings name the characters outside ASCII in the spelling, one for each and in the
same order (`foreignIn_text_eq_left`), although a character may be left inside a fraction or under
an accent, and although other warnings come in between.
-/

namespace TexGlyph

/-- Whether the wording of a note begins with the given words. -/
def Note.begins (n : Note) (words : String) : Bool := words.toList.isPrefixOf n.message.toList

/-- Whether a note is a warning whose wording says that a character was left as it is. -/
def Note.reportsLeft (n : Note) : Bool :=
  n.severity == .warn && (n.begins "could not convert " || n.begins "unsupported modifier '")

namespace Note

variable {n : Note} {words opening rest : String}

theorem begins_of_eq (h : n.message = words ++ rest) : n.begins words = true := by
  rw [begins, h, String.toList_append]
  exact List.isPrefixOf_iff_prefix.2 (List.prefix_append _ _)

/-- A wording with another opening does not begin with the words, if they differ before the
shorter of them ends. -/
theorem begins_eq_false (h : n.message = opening ++ rest)
    (hwords : words.toList.isPrefixOf opening.toList = false)
    (hopening : opening.toList.isPrefixOf words.toList = false) : n.begins words = false := by
  rw [begins, h, String.toList_append, Bool.eq_false_iff, ne_eq, List.isPrefixOf_iff_prefix]
  intro hprefix
  rw [Bool.eq_false_iff, ne_eq, List.isPrefixOf_iff_prefix] at hwords hopening
  exact (List.prefix_or_prefix_of_prefix hprefix (List.prefix_append _ _)).elim hwords hopening

theorem reportsLeft_eq_false (h : n.message = opening ++ rest)
    (hopening : (["could not convert ", "unsupported modifier '"].all fun words =>
      !words.toList.isPrefixOf opening.toList && !opening.toList.isPrefixOf words.toList) = true) :
    n.reportsLeft = false := by
  simp only [List.all_cons, List.all_nil, Bool.and_true, Bool.and_eq_true, Bool.not_eq_true']
    at hopening
  obtain ⟨hconvert, hmodifier⟩ := hopening
  rw [reportsLeft, begins_eq_false h hconvert.1 hconvert.2,
    begins_eq_false h hmodifier.1 hmodifier.2]
  exact Bool.and_false _

/-- The warnings of the two kinds are those that name a character as left, and they name one. -/
theorem length_left (n : Note) : n.left.length = if n.reportsLeft then 1 else 0 := by
  -- Debug and trace notes are no warnings; for the others the openings of the wordings decide.
  cases n with
  | overridden c command => rfl
  | symbol c command => rfl
  | decomposing c d => rfl
  | strayMark mark =>
    have hwording : (strayMark mark).message =
        "accent " ++ (Quoted.char mark ++ " with no preceding base") := String.append_assoc
    rw [reportsLeft_eq_false hwording (by decide)]
    rfl
  | unsupportedCompat c =>
    rw [reportsLeft_eq_false (n := unsupportedCompat c) rfl (by decide)]
    rfl
  | unsupportedPair c =>
    rw [reportsLeft_eq_false (n := unsupportedPair c) rfl (by decide)]
    rfl
  | unsupportedTag tag c =>
    have hwording : (unsupportedTag tag c).message =
        "unsupported modifier '" ++ (tag ++ ("' in " ++ Quoted.char c)) := by
      show "unsupported modifier '" ++ tag ++ "' in " ++ Quoted.char c = _
      rw [String.append_assoc, String.append_assoc]
    have hbegins := begins_of_eq hwording
    rw [reportsLeft, hbegins, Bool.or_true]
    rfl
  | unconvertible c =>
    have hwording : (unconvertible c).message =
        "could not convert " ++ (named c ++ " to ascii") := String.append_assoc
    have hbegins := begins_of_eq hwording
    rw [reportsLeft, hbegins, Bool.true_or]
    rfl

end Note

/-- There are as many characters named as left as there are warnings that name one. -/
theorem length_flatMap_left (notes : List LocatedNote) :
    (notes.flatMap (·.note.left)).length = notes.countP (·.note.reportsLeft) := by
  induction notes with
  | nil => rfl
  | cons n notes ih =>
    rw [List.flatMap_cons, List.length_append, ih, Note.length_left, List.countP_cons, Nat.add_comm]

namespace Speller

variable {s : Speller}

/-- The characters outside ASCII in a spelling are those that warnings name as left, in order. -/
theorem foreignIn_text_eq_left (haccents : s.preferences.accents = true) (hs : s.AsciiCommands)
    (p : Position) (text : String) :
    foreignIn (s.spell p text).text = (s.spell p text).notes.flatMap (·.note.left) := by
  rw [foreignIn_text_spell hs, left_notes_spell]
  exact List.flatMap_congr fun c _ => (accounted_actions hs c).named haccents

/-- **A spelling has as many characters outside ASCII as there are warnings about one**, so it is
ASCII exactly when there is no such warning. -/
theorem count_foreign_eq_count_warnings (s : Speller) (haccents : s.preferences.accents = true)
    (hs : s.AsciiCommands) (p : Position) (text : String) :
    (s.spell p text).text.toList.countP isForeign =
        (s.spell p text).notes.countP (·.note.reportsLeft) ∧
      (IsAscii (s.spell p text).text ↔
        ∀ n ∈ (s.spell p text).notes, n.note.reportsLeft = false) := by
  have hcount : (s.spell p text).text.toList.countP isForeign =
      (s.spell p text).notes.countP (·.note.reportsLeft) := by
    rw [List.countP_eq_length_filter, ← length_flatMap_left, ← foreignIn_text_eq_left haccents hs]
    rfl
  refine ⟨hcount, ?_⟩
  calc IsAscii (s.spell p text).text
    _ ↔ (s.spell p text).text.toList.countP isForeign = 0 := by
      rw [List.countP_eq_zero]
      simp only [IsAscii, Bool.not_eq_true]
    _ ↔ (s.spell p text).notes.countP (·.note.reportsLeft) = 0 := by rw [hcount]
    _ ↔ ∀ n ∈ (s.spell p text).notes, n.note.reportsLeft = false := by
      rw [List.countP_eq_zero]
      simp only [Bool.not_eq_true]

/-- Two characters are left, and three more warnings are about something else. -/
theorem count_foreign_eq_count_warnings_intersecting :
    intersecting.preferences.accents = true ∧ intersecting.AsciiCommands ∧
      (intersecting.spell ⟨"in", 1, 0⟩ "\u0301㎏\u0303∩㈀").text.toList.countP isForeign = 2 ∧
      (intersecting.spell ⟨"in", 1, 0⟩ "\u0301㎏\u0303∩㈀").notes.countP (·.note.reportsLeft) = 2 :=
  have hcount := (count_foreign_eq_count_warnings intersecting rfl asciiCommands_intersecting
    ⟨"in", 1, 0⟩ "\u0301㎏\u0303∩㈀").1
  ⟨rfl, asciiCommands_intersecting, by decide +kernel, by rw [← hcount]; decide +kernel⟩

end Speller

end TexGlyph
