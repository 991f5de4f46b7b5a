import TexGlyph.Proofs.Spelling.Idempotence

/-!
# Texts of ASCII

No rule takes up a character of ASCII: the tables of quotes, dashes and marks have none, the lexicon
is only asked for characters outside ASCII whatever it holds, and no character of ASCII has a
decomposition or a name.  Only the user can have a command for one.  Otherwise such a character adds
itself to the fragments and makes no remark (`perform_of_ascii`), so a run of them is passed over
with the position further on by its length (`spellFrom_of_ascii`), and a text of ASCII is its own
spelling (`spell_of_ascii`).
-/

namespace TexGlyph.Speller

variable {s : Speller}

/-- A character of ASCII adds itself to the fragments, and nothing is said about it. -/
theorem perform_of_ascii {c : Char} (hc : isForeign c = false)
    (hkey : s.preferences.overrides[c]? = none) (stack : List String) :
    Action.perform (s.actions c) stack = (charFragment c :: stack, []) := by
  rw [actions_of_ascii hc (direct?_eq_none_of_ascii hc hkey)]
  rfl

/-- **A run of ASCII is passed over**: what comes after it is spelled after its characters, one
fragment each, and from as many columns further on. -/
theorem spellFrom_of_ascii {cs : List Char}
    (h : ∀ c ∈ cs, isForeign c = false ∧ s.preferences.overrides[c]? = none) (p : Position)
    (rest : List Char) (stack : List String) :
    s.spellFrom p (cs ++ rest) stack =
      s.spellFrom (p.advance cs.length) rest ((cs.map charFragment).reverse ++ stack) := by
  induction cs generalizing p stack with
  | nil => rfl
  | cons c cs ih =>
    obtain ⟨⟨hc, hkey⟩, hcs⟩ := List.forall_mem_cons.1 h
    have hstep : s.spellFrom p (c :: (cs ++ rest)) stack =
        s.spellFrom (p.advance 1) (cs ++ rest) (charFragment c :: stack) := by
      rw [spellFrom, perform_of_ascii hc hkey]
      rfl
    rw [List.cons_append, hstep, ih hcs, Position.advance_advance, List.map_cons,
      List.reverse_cons, List.append_assoc, List.length_cons, Nat.add_comm 1]
    rfl

/-- **A text of ASCII is its own spelling**, if the user has no command for a character of ASCII:
each character is a fragment, nothing is said about any, and what comes after the text is spelled
from as many columns further on as it has characters. -/
theorem spell_of_ascii (s : Speller)
    (hkeys : ∀ c, isForeign c = false → s.preferences.overrides[c]? = none) (p : Position)
    (text : String) (htext : ∀ c ∈ text.toList, isForeign c = false) :
    (s.spell p text).text = text ∧
      (s.spell p text).fragments = text.toList.map charFragment ∧
      (s.spell p text).notes = [] ∧
      ∀ (rest : List Char) (stack : List String),
        s.spellFrom p (text.toList ++ rest) stack =
          s.spellFrom (p.advance text.length) rest
            ((text.toList.map charFragment).reverse ++ stack) := by
  have hpassed : ∀ (rest : List Char) (stack : List String),
      s.spellFrom p (text.toList ++ rest) stack =
        s.spellFrom (p.advance text.length) rest
          ((text.toList.map charFragment).reverse ++ stack) := by
    intro rest stack
    rw [← String.length_toList]
    exact spellFrom_of_ascii (fun c hc => ⟨htext c hc, hkeys c (htext c hc)⟩) p rest stack
  -- The whole text is the case of nothing before and nothing after it.
  have hwhole : s.spellFrom p text.toList [] = ((text.toList.map charFragment).reverse, []) := by
    have hempty := hpassed [] []
    rwa [List.append_nil, List.append_nil] at hempty
  have hspell : s.spell p text = ⟨text.toList.map charFragment, []⟩ := by
    rw [spell, hwhole]
    simp only [List.reverse_reverse]
  refine ⟨?_, ?_, ?_, hpassed⟩
  · exact s.text_spell_of_writesOnce
      (fun c hc => keeps_of_ascii (htext c hc) (hkeys c (htext c hc))) p
  · rw [hspell]
  · rw [hspell]

/-- A speller that prefers formulas, with a lexicon that has commands for characters of ASCII. -/
def dollared : Speller where
  preferences := { preferMath := true, quotes := true, dashes := true }
  lexicon := {
    commands := Std.ExtTreeMap.ofList [('$', ["\\mathdollar"]), ('\\', ["\\backslash"])] }

/-- Neither the lexicon nor the preference for it changes markup. -/
theorem spell_of_ascii_dollared :
    (∀ c, isForeign c = false → dollared.preferences.overrides[c]? = none) ∧
      (∀ c ∈ "\\a $'--$".toList, isForeign c = false) ∧
      dollared.lexicon.canonical? '$' = some "\\mathdollar" ∧
      (dollared.spell ⟨"in", 1, 0⟩ "\\a $'--$").text = "\\a $'--$" ∧
      (dollared.spell ⟨"in", 1, 0⟩ "\\a $'--$").fragments =
        ["\\", "a", " ", "$", "'", "-", "-", "$"] ∧
      (dollared.spell ⟨"in", 1, 0⟩ "\\a $'--$").notes = [] ∧
      dollared.spellFrom ⟨"in", 1, 0⟩ ("\\a $'--$".toList ++ ['㎏']) [] =
        dollared.spellFrom ⟨"in", 1, 8⟩ ['㎏'] ["$", "-", "-", "'", "$", " ", "a", "\\"] := by
  have hkeys : ∀ c, isForeign c = false → dollared.preferences.overrides[c]? = none :=
    fun _ _ => Std.ExtTreeMap.getElem?_empty
  have htext : ∀ c ∈ "\\a $'--$".toList, isForeign c = false := by
    intro c hc
    have hall : "\\a $'--$".toList.all (fun c => !isForeign c) = true := by decide
    simpa using List.all_eq_true.1 hall c hc
  obtain ⟨hspelled, hfragments, hnotes, hpassed⟩ :=
    spell_of_ascii dollared hkeys ⟨"in", 1, 0⟩ _ htext
  exact ⟨hkeys, htext, by decide +kernel, hspelled, hfragments.trans (by decide), hnotes,
    hpassed ['㎏'] []⟩

end TexGlyph.Speller
