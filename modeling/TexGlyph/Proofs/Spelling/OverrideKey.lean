import TexGlyph.Proofs.Text.Hex
import TexGlyph.Spelling.Preferences

/-!
# The keys of overrides

A key is written for a character if it is the character itself, or a mark and a numeral of its code
point (`IsKeyOf`).  All keys that are written for a character are read as it, and any key that is not
read is a fault that names the key.  But the reader of numbers takes a plus sign in front of the
digits, so keys with a second sign are read, too (`IsSignedKeyOf`).  These are all that is read
beyond what is written for a character (`keyed_eq_ok_iff`), and they are never written for one
themselves, so a key is taken as it is written exactly if it is none of them
(`takenAsWritten_iff`).
-/

namespace TexGlyph.Preferences

/-- The marks that a written code point begins with. -/
def marks : List (List Char) := [['U', '+'], ['u', '+'], ['0', 'x'], ['0', 'X']]

/-- Whether a key is written for a character: it is the character itself, or a mark and a numeral of
its code point. -/
def IsKeyOf (key : String) (c : Char) : Prop :=
  key.toList = [c] ∨
    ∃ mark ∈ marks, ∃ digits, Hex.IsNumeral c.toNat digits ∧ key.toList = mark ++ digits

/-- Whether a key is a mark, a plus sign and a numeral of the code point of a character. -/
def IsSignedKeyOf (key : String) (c : Char) : Prop :=
  ∃ mark ∈ marks, ∃ digits, Hex.IsNumeral c.toNat digits ∧ key.toList = mark ++ '+' :: digits

/-- Whether a key is read as the characters that it is written for, and is a fault that names the key
if there is none. -/
def TakenAsWritten (key : String) : Prop :=
  (∀ c, keyed key = .ok c ↔ IsKeyOf key c) ∧
    ((∀ c, ¬ IsKeyOf key c) → keyed key = .error (.codepoint key))

/-! ### Marks -/

/-- Marks have two characters. -/
theorem length_of_mem_marks {mark : List Char} (h : mark ∈ marks) : mark.length = 2 := by
  have hall : marks.all (fun mark => mark.length == 2) = true := by decide
  exact beq_iff_eq.1 (List.all_eq_true.1 hall mark h)

theorem withoutMark?_eq_some_iff {cs digits : List Char} :
    withoutMark? cs = some digits ↔ ∃ mark ∈ marks, cs = mark ++ digits := by
  constructor
  · intro h
    unfold withoutMark? at h
    split at h
    · exact ⟨['U', '+'], by decide, by rw [← Option.some.inj h]; rfl⟩
    · exact ⟨['u', '+'], by decide, by rw [← Option.some.inj h]; rfl⟩
    · exact ⟨['0', 'x'], by decide, by rw [← Option.some.inj h]; rfl⟩
    · exact ⟨['0', 'X'], by decide, by rw [← Option.some.inj h]; rfl⟩
    · cases h
  · rintro ⟨mark, hmark, rfl⟩
    simp only [marks, List.mem_cons, List.not_mem_nil, or_false] at hmark
    rcases hmark with rfl | rfl | rfl | rfl <;> rfl

/-! ### What is read -/

theorem keyed_eq_ok_iff_keyed? {key : String} {c : Char} :
    keyed key = .ok c ↔ keyed? key = some c := by
  rw [keyed]
  cases keyed? key with
  | none => simp
  | some d => simp

/-- A key that stands for no character is a fault that names the key. -/
theorem keyed_eq_error {key : String} (h : ∀ c, keyed key ≠ .ok c) :
    keyed key = .error (.codepoint key) := by
  rw [keyed]
  cases hkey : keyed? key with
  | none => rfl
  | some c => exact absurd (keyed_eq_ok_iff_keyed?.2 hkey) (h c)

/-- A mark and one character more are no single character. -/
theorem ne_singleton_of_mark {mark digits : List Char} (hmark : mark ∈ marks) (c : Char) :
    mark ++ digits ≠ [c] := by
  intro heq
  have hlength := congrArg List.length heq
  rw [List.length_append, length_of_mem_marks hmark, List.length_singleton] at hlength
  omega

/-- A key is the character that it stands for, or a mark and a code point. -/
theorem keyed?_eq_some_iff {key : String} {c : Char} :
    keyed? key = some c ↔ key.toList = [c] ∨
      ∃ mark ∈ marks, ∃ digits, key.toList = mark ++ digits ∧ Hex.scalar? digits = some c := by
  rw [keyed?]
  split
  · -- A single character has no room for a mark.
    rename_i d hd
    rw [hd]
    constructor
    · intro h
      rw [Option.some.inj h]
      exact Or.inl rfl
    · rintro (h | ⟨mark, hmark, digits, h, -⟩)
      · rw [(List.cons.inj h).1]
      · exact absurd h.symm (ne_singleton_of_mark hmark d)
  · rename_i hmany
    rw [Option.bind_eq_some_iff]
    constructor
    · rintro ⟨digits, hdigits, hread⟩
      obtain ⟨mark, hmark, heq⟩ := withoutMark?_eq_some_iff.1 hdigits
      exact Or.inr ⟨mark, hmark, digits, heq, hread⟩
    · rintro (h | ⟨mark, hmark, digits, heq, hread⟩)
      · exact absurd h (hmany c)
      · exact ⟨digits, withoutMark?_eq_some_iff.2 ⟨mark, hmark, heq⟩, hread⟩

/-- **What is read as a character**: the keys that are written for it, and those with a second
sign. -/
theorem keyed_eq_ok_iff {key : String} {c : Char} :
    keyed key = .ok c ↔ IsKeyOf key c ∨ IsSignedKeyOf key c := by
  rw [keyed_eq_ok_iff_keyed?, keyed?_eq_some_iff]
  constructor
  · rintro (hsingle | ⟨mark, hmark, digits, heq, hread⟩)
    · exact Or.inl (Or.inl hsingle)
    · rcases Hex.scalar?_eq_some_iff.1 hread with hnumeral | ⟨rest, rfl, hnumeral⟩
      · exact Or.inl (Or.inr ⟨mark, hmark, digits, hnumeral, heq⟩)
      · exact Or.inr ⟨mark, hmark, rest, hnumeral, heq⟩
  · rintro ((hsingle | ⟨mark, hmark, digits, hnumeral, heq⟩) | ⟨mark, hmark, rest, hnumeral, heq⟩)
    · exact Or.inl hsingle
    · exact Or.inr ⟨mark, hmark, digits, heq, Hex.scalar?_eq_some_iff.2 (Or.inl hnumeral)⟩
    · exact Or.inr ⟨mark, hmark, '+' :: rest, heq,
        Hex.scalar?_eq_some_iff.2 (Or.inr ⟨rest, rfl, hnumeral⟩)⟩

/-! ### What is written -/

/-- A key with a second sign is written for no character. -/
theorem IsSignedKeyOf.not_isKeyOf {key : String} {c : Char} (h : IsSignedKeyOf key c) (d : Char) :
    ¬ IsKeyOf key d := by
  obtain ⟨mark, hmark, digits, -, heq⟩ := h
  rintro (hsingle | ⟨mark', hmark', digits', hnumeral, heq'⟩)
  · exact ne_singleton_of_mark hmark d (heq.symm.trans hsingle)
  · have hlength : mark'.length = mark.length := by
      rw [length_of_mem_marks hmark', length_of_mem_marks hmark]
    obtain ⟨-, rfl⟩ := List.append_inj (heq'.symm.trans heq) hlength
    exact hnumeral.not_mem rfl List.mem_cons_self

/-- **Keys are taken as they are written, but for those with a second sign.**  A key is read as a
character exactly if it is the character, or a mark and a numeral of its code point with a plus sign
in front of it or without, and any other key is a fault that names it; and what is written for
characters is read as them, and nothing else is, exactly if there is no plus sign in front of the
numeral. -/
theorem takenAsWritten_iff (key : String) :
    (∀ c, keyed key = .ok c ↔ IsKeyOf key c ∨ IsSignedKeyOf key c) ∧
      ((∀ c, ¬ IsKeyOf key c ∧ ¬ IsSignedKeyOf key c) → keyed key = .error (.codepoint key)) ∧
      (TakenAsWritten key ↔ ∀ c, ¬ IsSignedKeyOf key c) := by
  refine ⟨fun c => keyed_eq_ok_iff, fun h => ?_, ?_, fun h => ⟨fun c => ?_, fun hnone => ?_⟩⟩
  · refine keyed_eq_error fun c hc => ?_
    rcases keyed_eq_ok_iff.1 hc with hkey | hsigned
    · exact (h c).1 hkey
    · exact (h c).2 hsigned
  · rintro ⟨hread, -⟩ c hsigned
    have hkey := (hread c).1 (keyed_eq_ok_iff.2 (Or.inr hsigned))
    exact hsigned.not_isKeyOf c hkey
  · rw [keyed_eq_ok_iff]
    exact or_iff_left (h c)
  · refine keyed_eq_error fun c hc => ?_
    rcases keyed_eq_ok_iff.1 hc with hkey | hsigned
    · exact hnone c hkey
    · exact h c hsigned

/-- A key with two signs is read, though it is written for no character. -/
theorem not_takenAsWritten_signed :
    keyed "U++41" = .ok 'A' ∧ (∀ c, ¬ IsKeyOf "U++41" c) ∧ ¬ TakenAsWritten "U++41" := by
  have hnumeral : Hex.IsNumeral 'A'.toNat ['4', '1'] := ⟨0, by decide⟩
  have hsigned : IsSignedKeyOf "U++41" 'A' :=
    ⟨['U', '+'], by decide, ['4', '1'], hnumeral, by decide⟩
  have hread : keyed "U++41" = .ok 'A' := keyed_eq_ok_iff.2 (Or.inr hsigned)
  refine ⟨hread, hsigned.not_isKeyOf, fun htaken => ?_⟩
  exact hsigned.not_isKeyOf 'A' ((htaken.1 'A').1 hread)

end TexGlyph.Preferences
