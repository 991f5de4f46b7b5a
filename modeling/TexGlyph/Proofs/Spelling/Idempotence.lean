import TexGlyph.Proofs.Lexicon.Table
import TexGlyph.Proofs.Spelling.Accounting

/-!
# Spelling twice

A spelling is a text of characters that write themselves: those outside ASCII because they were
left as they are (`Speller.Accounted.kept`), and those of ASCII because no rule takes them up
(`keeps_of_ascii`).  So every character of a spelling writes itself (`keeps_of_mem_text`), and
spelling it again changes nothing.

For ASCII this needs that the user has no command for a character of ASCII, and for the others that
the commands of the user and of the lexicon are ASCII.
-/

namespace TexGlyph.Speller

variable {s : Speller}

/-! ### Characters of ASCII -/

theorem all_keys_foreign :
    (quoteSpellings ++ dashSpellings).all (fun entry => isForeign entry.1) = true ∧
      accentTags.all (fun entry => isForeign entry.1) = true := by
  decide

theorem isForeign_of_ligature? {c : Char} {spelling : String}
    (h : s.ligature? c = some spelling) : isForeign c = true :=
  List.all_eq_true.1 all_keys_foreign.1 (c, spelling) (mem_spellings_of_ligature? h)

theorem isForeign_of_accentTag? {c tag : Char} (h : accentTag? c = some tag) :
    isForeign c = true :=
  List.all_eq_true.1 all_keys_foreign.2 (c, tag) (mem_of_lookup h)

/-- The rules 1 to 4 pass over a character of ASCII, unless the user has a command for it. -/
theorem direct?_eq_none_of_ascii {c : Char} (hc : isForeign c = false)
    (hkey : s.preferences.overrides[c]? = none) : s.direct? c = none := by
  have hforeign : ¬ isForeign c = true := by
    rw [hc]
    exact Bool.false_ne_true
  refine s.direct?_eq_none ?_ hkey ?_ ?_
  · rw [Option.eq_none_iff_forall_ne_some]
    exact fun spelling hspelling => hforeign (isForeign_of_ligature? hspelling)
  · rw [symbol?, if_neg hforeign, ite_self]
  · rw [Option.eq_none_iff_forall_ne_some]
    intro tag htag
    rw [mark?, Option.ite_none_right_eq_some] at htag
    exact hforeign (isForeign_of_accentTag? htag.2)

/-- A character of ASCII that the rules 1 to 4 pass over is only written as it is. -/
theorem actions_of_ascii {c : Char} (hc : isForeign c = false) (hdirect : s.direct? c = none) :
    s.actions c = [.write (charFragment c)] := by
  have hforeign : ¬ isForeign c = true := by
    rw [hc]
    exact Bool.false_ne_true
  have hle : c.toNat ≤ 0x7F := by
    rw [isForeign, decide_eq_false_iff_not] at hc
    exact Nat.le_of_not_lt hc
  have hactions := s.actions_of_no_decomposition hdirect (Decomposition.of?_eq_none_of_ascii hle)
  cases s.fallback_cases c with
  | greek name hname _ =>
    rw [charName?_eq_none_of_ascii hle] at hname
    cases hname
  | symbol command _ hsymbol _ => exact absurd hsymbol hforeign
  | unconvertible hunconvertible _ => exact absurd hunconvertible hforeign
  | ascii _ eq => exact hactions.trans eq

/-- A character of ASCII that the rules 1 to 4 pass over writes itself. -/
theorem keeps_of_direct?_eq_none {c : Char} (hc : isForeign c = false)
    (hdirect : s.direct? c = none) : s.Keeps c :=
  ⟨[], actions_of_ascii hc hdirect⟩

/-- A character of ASCII writes itself, unless the user has a command for it. -/
theorem keeps_of_ascii {c : Char} (hc : isForeign c = false)
    (hkey : s.preferences.overrides[c]? = none) : s.Keeps c :=
  keeps_of_direct?_eq_none hc (direct?_eq_none_of_ascii hc hkey)

/-! ### Texts -/

/-- Every character of a spelling writes itself. -/
theorem keeps_of_mem_text (hkeys : ∀ c, isForeign c = false → s.preferences.overrides[c]? = none)
    (hs : s.AsciiCommands) {p : Position} {text : String} {c : Char}
    (hc : c ∈ (s.spell p text).text.toList) : s.Keeps c := by
  cases hforeign : isForeign c with
  | false => exact keeps_of_ascii hforeign (hkeys c hforeign)
  | true =>
    -- A character outside ASCII was written by the actions for some `x` of the text.
    have hmem : c ∈ foreignIn (s.spell p text).text := List.mem_filter.2 ⟨hc, hforeign⟩
    rw [foreignIn_text_spell hs] at hmem
    obtain ⟨x, _, hmem⟩ := List.mem_flatMap.1 hmem
    exact (accounted_actions hs x).kept c hmem

/-- **Spelling is idempotent**, and every character of a spelling is one that the rules write as
it is, whatever stands before it. -/
theorem spell_idempotent (s : Speller)
    (hkeys : ∀ c, isForeign c = false → s.preferences.overrides[c]? = none)
    (hs : s.AsciiCommands) (p q : Position) (text : String) :
    (s.spell p (s.spell q text).text).text = (s.spell q text).text ∧
      ∀ c ∈ (s.spell q text).text.toList, ∀ stack,
        (Action.perform (s.actions c) stack).1 = charFragment c :: stack := by
  constructor
  · exact s.text_spell_of_writesOnce (fun c hc => keeps_of_mem_text hkeys hs hc) p
  · intro c hc stack
    exact (keeps_of_mem_text hkeys hs hc).perform_eq stack

/-- A speller with a command of the user and a command of the lexicon. -/
def intersecting : Speller where
  preferences := Preferences.withOverride { quotes := true } 'é' "\\eacute"
  lexicon := { commands := Std.ExtTreeMap.insert ∅ '∩' ["\\cap"] }

theorem intersecting_keys (c : Char) (hc : isForeign c = false) :
    intersecting.preferences.overrides[c]? = none := by
  have hne : 'é' ≠ c := by
    rintro rfl
    exact absurd hc (by decide)
  simp [intersecting, Preferences.withOverride, hne]

theorem asciiCommands_intersecting : intersecting.AsciiCommands where
  overrides c command h := by
    rw [eq_of_getElem?_singleton h]
    exact isAscii_iff.2 (by decide)
  symbols c command h := by
    rw [Lexicon.eq_of_canonical?_singleton rfl h]
    exact isAscii_iff.2 (by decide)

/-- A letter with a command of the user, a mark over it, a symbol, a fraction, and a square unit
that stays as it is. -/
theorem spell_idempotent_intersecting :
    (∀ c, isForeign c = false → intersecting.preferences.overrides[c]? = none) ∧
      intersecting.AsciiCommands ∧
      (intersecting.spell ⟨"in", 1, 0⟩ "é\u0301∩½㎏").text =
        "\\'\x7b\\eacute \x7d\\cap \x7b\\sfrac\x7b1\x7d\x7b2\x7d\x7d㎏" ∧
      (intersecting.spell ⟨"in", 1, 0⟩ (intersecting.spell ⟨"in", 1, 0⟩ "é\u0301∩½㎏").text).text =
        (intersecting.spell ⟨"in", 1, 0⟩ "é\u0301∩½㎏").text :=
  ⟨intersecting_keys, asciiCommands_intersecting, by decide +kernel,
    (spell_idempotent intersecting intersecting_keys asciiCommands_intersecting _ _ _).1⟩

end TexGlyph.Speller
