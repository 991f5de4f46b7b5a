import TexGlyph.Proofs.Lexicon.Canonical
import TexGlyph.Proofs.Spelling.Rule
import TexGlyph.Spelling.Text

/-!
# What a spelling depends on

A character is spelled by what the user and the lexicon have for it, and by the spelling of the
characters of its decomposition.  So the spelling of a text depends on the commands of the
characters that can be reached from it along decompositions (`Reaches`), and on no other: two
spellers that make the same choices (`Preferences.SameChoices`) and have the same commands for these
(`Speller.AgreesOn`) follow the same rule for each of them (`Speller.actions_congr`, by induction
along decompositions) and give the text the same fragments and the same remarks
(`Speller.spell_congr`).

A command of the user is asked for by its character, and of a lexicon only the canonical command is
asked for, which the records of one character decide (`Lexicon.canonical?_build`).  So what is said
about a character that the text does not reach has no effect on the text, nor have aliases and
records of accents (`Speller.spell_local`).
-/

namespace TexGlyph

/-! ### The characters that a text reaches -/

/-- The characters that a text is spelled from: its own, and with each of them those of its
decomposition. -/
inductive Reaches (cs : List Char) : Char → Prop where
  /-- A text reaches its characters. -/
  | own {c : Char} (hc : c ∈ cs) : Reaches cs c
  /-- With a character a text reaches the characters of its decomposition. -/
  | scalar {c x : Char} {d : Decomposition} (hc : Reaches cs c) (hd : Decomposition.of? c = some d)
      (hx : x ∈ d.scalars) : Reaches cs x

/-- Whether a list has the characters of the decomposition of each of its characters. -/
def isClosed (chars : List Char) : Bool :=
  chars.all fun c => (Decomposition.of? c).all fun d => d.scalars.all chars.contains

/-- A text reaches no character outside a closed list that has the characters of the text. -/
theorem Reaches.mem_of_isClosed {cs chars : List Char} (hclosed : isClosed chars = true)
    (hsub : ∀ c ∈ cs, c ∈ chars) {c : Char} (h : Reaches cs c) : c ∈ chars := by
  induction h with
  | own hc => exact hsub _ hc
  | @scalar c x d _ hd hx ih =>
    have hscalars := List.all_eq_true.1 hclosed c ih
    rw [hd, Option.all_some] at hscalars
    exact List.contains_iff_mem.1 (List.all_eq_true.1 hscalars x hx)

/-! ### Spellers that agree -/

/-- Whether two preferences differ in nothing but the commands of the user. -/
structure Preferences.SameChoices (p p' : Preferences) : Prop where
  /-- The fonts. -/
  fonts : p.fonts = p'.fonts
  /-- The accents. -/
  accents : p.accents = p'.accents
  /-- The preference for formulas. -/
  preferMath : p.preferMath = p'.preferMath
  /-- The accent mode. -/
  accentMode : p.accentMode = p'.accentMode
  /-- The quotes. -/
  quotes : p.quotes = p'.quotes
  /-- The dashes. -/
  dashes : p.dashes = p'.dashes

theorem Preferences.SameChoices.refl (p : Preferences) : p.SameChoices p :=
  ⟨rfl, rfl, rfl, rfl, rfl, rfl⟩

namespace Speller

/-- Whether two spellers have the same command of the user and the same canonical command for a
character. -/
structure AgreesOn (s s' : Speller) (c : Char) : Prop where
  /-- The command of the user. -/
  override : s.preferences.overrides[c]? = s'.preferences.overrides[c]?
  /-- The canonical command of the lexicon. -/
  symbol : s.lexicon.canonical? c = s'.lexicon.canonical? c

theorem AgreesOn.refl (s : Speller) (c : Char) : s.AgreesOn s c := ⟨rfl, rfl⟩

variable {s s' : Speller} (hchoices : s.preferences.SameChoices s'.preferences)

include hchoices

/-! ### The rules -/

theorem direct?_congr {c : Char} (h : s.AgreesOn s' c) : s.direct? c = s'.direct? c := by
  have hligature : s.ligature? c = s'.ligature? c := by
    rw [ligature?, ligature?, hchoices.quotes, hchoices.dashes]
  have hsymbol : s.symbol? c = s'.symbol? c := by
    rw [symbol?, symbol?, h.symbol]
  have hmark : s.mark? c = s'.mark? c := by
    rw [mark?, mark?, hchoices.accents]
  rw [direct?, direct?, hligature, h.override, hsymbol, hmark, hchoices.preferMath,
    hchoices.accentMode]

/-- A decomposition is spelled the same by both, if the rules after it do the same. -/
theorem decomposed_congr {c : Char} (hfallback : s.fallback c = s'.fallback c) (d : Decomposition)
    (spelled : (x : Char) → x ∈ d.scalars → List Action) :
    s.decomposed c d spelled = s'.decomposed c d spelled := by
  cases d with
  | font base => rw [decomposed, decomposed, hchoices.fonts]
  | small base => rw [decomposed, decomposed]
  | compat scalars =>
    cases scalars with
    | nil => rw [decomposed, decomposed, hfallback]
    | cons first rest => rw [decomposed, decomposed, hfallback]
  | script kind base => cases kind <;> rw [decomposed, decomposed]
  | fraction numerator denominator => rw [decomposed, decomposed]
  | accented base mark =>
    rw [decomposed, decomposed, hchoices.accents, hchoices.accentMode, hfallback]
  | canonical scalars => rw [decomposed, decomposed]
  | unsupported tag => rw [decomposed, decomposed]

variable {cs : List Char} (hagree : ∀ c, Reaches cs c → s.AgreesOn s' c)

include hagree

/-- **Two spellers that agree on what a text reaches do the same with each of these characters.** -/
theorem actions_congr {c : Char} (hc : Reaches cs c) : s.actions c = s'.actions c := by
  induction c using Decomposition.scalarInduction with
  | step c ih =>
  have hdirect := direct?_congr hchoices (hagree c hc)
  have hfallback : s.fallback c = s'.fallback c := by
    rw [fallback, fallback, (hagree c hc).symbol]
  cases h : s'.direct? c with
  | some actions => rw [s.actions_of_direct? (hdirect.trans h), s'.actions_of_direct? h]
  | none =>
    cases hd : Decomposition.of? c with
    | none =>
      rw [s.actions_of_no_decomposition (hdirect.trans h) hd, s'.actions_of_no_decomposition h hd,
        hfallback]
    | some d =>
      -- A text that reaches the character reaches those of its decomposition.
      have hscalars : (fun (x : Char) (_ : x ∈ d.scalars) => s.actions x) =
          fun x _ => s'.actions x := by
        funext x hx
        exact ih d hd x hx (.scalar hc hd hx)
      rw [s.actions_of_decomposition (hdirect.trans h) hd, s'.actions_of_decomposition h hd,
        rendered, rendered, hscalars, decomposed_congr hchoices hfallback]

/-! ### Texts -/

theorem spellFrom_congr {rest : List Char} (hrest : ∀ c ∈ rest, c ∈ cs) (p : Position)
    (stack : List String) : s.spellFrom p rest stack = s'.spellFrom p rest stack := by
  induction rest generalizing p stack with
  | nil => rfl
  | cons c rest ih =>
    obtain ⟨hc, hrest⟩ := List.forall_mem_cons.1 hrest
    simp only [spellFrom, actions_congr hchoices hagree (.own hc), ih hrest]

omit hagree

/-- **Two spellers that agree on what a text reaches spell it the same**, with the same remarks. -/
theorem spell_congr {text : String} (hagree : ∀ c, Reaches text.toList c → s.AgreesOn s' c)
    (p : Position) : s.spell p text = s'.spell p text := by
  rw [spell, spell, spellFrom_congr hchoices hagree (fun c hc => hc)]

end Speller

/-! ### Commands of characters that a text does not reach -/

/-- The preferences with other commands of the user. -/
def Preferences.withOverrides (p : Preferences) (overrides : Overrides) : Preferences :=
  { p with overrides }

theorem Preferences.sameChoices_withOverrides (p : Preferences) (overrides : Overrides) :
    (p.withOverrides overrides).SameChoices p :=
  ⟨rfl, rfl, rfl, rfl, rfl, rfl⟩

/-- Records of accents and of other characters do not change the command of a character. -/
theorem Definitions.commandFor?_congr {c : Char} {d d' : Definitions}
    {before changed changed' after : List SymbolRecord}
    (hd : d.records = before ++ changed ++ after) (hd' : d'.records = before ++ changed' ++ after)
    (h : ∀ r ∈ changed ++ changed', r.isAccent = false → r.codepoint ≠ c) :
    d.commandFor? c = d'.commandFor? c := by
  -- Neither the old nor the new records have a command for the character.
  have hnone : ∀ r ∈ changed ++ changed', r.commandFor? c = none := by
    intro r hr
    rw [SymbolRecord.commandFor?]
    cases haccent : r.isAccent with
    | true => simp
    | false => simp [h r hr haccent]
  have hchanged : changed.findSome? (SymbolRecord.commandFor? c) = none :=
    List.findSome?_eq_none_iff.2 fun r hr => hnone r (List.mem_append_left _ hr)
  have hchanged' : changed'.findSome? (SymbolRecord.commandFor? c) = none :=
    List.findSome?_eq_none_iff.2 fun r hr => hnone r (List.mem_append_right _ hr)
  rw [commandFor?, commandFor?, hd, hd', List.findSome?_append, List.findSome?_append,
    List.findSome?_append, List.findSome?_append, hchanged, hchanged']

namespace Speller

/-- Other commands of the user for characters that a text does not reach change nothing. -/
theorem spell_withOverrides (s : Speller) {overrides : Overrides} {text : String}
    (h : ∀ c, Reaches text.toList c → overrides[c]? = s.preferences.overrides[c]?) (p : Position) :
    (Speller.mk (s.preferences.withOverrides overrides) s.lexicon).spell p text =
      s.spell p text := by
  refine spell_congr ?_ (fun c hc => ⟨?_, ?_⟩) p
  · exact s.preferences.sameChoices_withOverrides overrides
  · exact h c hc
  · rfl

/-- **What is said about a character has effect on the texts that reach it, and on no other.**  A
text is spelled the same, with the same remarks, by any two spellers that make the same choices and
have the same command of the user and the same canonical command for every character that the text
reaches.  So a command of the user for another character can be added, changed or removed; and so
can records of other characters and of accents, together with any aliases, in any of the sources of
the lexicon. -/
theorem spell_local (p : Position) (text : String) :
    (∀ s s' : Speller, s.preferences.SameChoices s'.preferences →
      (∀ c, Reaches text.toList c → s.AgreesOn s' c) → s.spell p text = s'.spell p text) ∧
    (∀ (s : Speller) (c : Char), ¬ Reaches text.toList c →
      (∀ command, (Speller.mk (s.preferences.withOverride c command) s.lexicon).spell p text =
        s.spell p text) ∧
      (Speller.mk (s.preferences.withOverrides (s.preferences.overrides.erase c)) s.lexicon).spell
        p text = s.spell p text) ∧
    ∀ (preferences : Preferences) (preset : Preset) (first last : List Definitions)
      (d d' : Definitions) (before changed changed' after : List SymbolRecord),
      d.records = before ++ changed ++ after → d'.records = before ++ changed' ++ after →
      (∀ r ∈ changed ++ changed', r.isAccent = false → ¬ Reaches text.toList r.codepoint) →
      (Speller.mk preferences (Lexicon.build preset (first ++ d :: last))).spell p text =
        (Speller.mk preferences (Lexicon.build preset (first ++ d' :: last))).spell p text := by
  refine ⟨?general, ?overrides, ?records⟩
  case general => exact fun s s' hchoices hagree => spell_congr hchoices hagree p
  case overrides =>
    intro s c hc
    have hother : ∀ x, Reaches text.toList x → compare c x ≠ .eq := by
      intro x hx heq
      exact hc (Std.LawfulEqOrd.compare_eq_iff_eq.1 heq ▸ hx)
    constructor
    · intro command
      refine s.spell_withOverrides (fun x hx => ?_) p
      rw [Std.ExtTreeMap.getElem?_insert, if_neg (hother x hx)]
    · refine s.spell_withOverrides (fun x hx => ?_) p
      rw [Std.ExtTreeMap.getElem?_erase, if_neg (hother x hx)]
  case records =>
    intro preferences preset first last d d' before changed changed' after hd hd' hreach
    -- The source that is changed has the same first command for every character reached.
    have hcommand : ∀ c, Reaches text.toList c → d.commandFor? c = d'.commandFor? c := by
      intro c hc
      refine Definitions.commandFor?_congr hd hd' fun r hr haccent heq => ?_
      exact hreach r hr haccent (heq ▸ hc)
    refine spell_congr ?_ (fun c hc => ⟨?_, ?_⟩) p
    · exact .refl preferences
    · rfl
    · rw [Lexicon.canonical?_build, Lexicon.canonical?_build, List.findSome?_append,
        List.findSome?_append, List.findSome?_cons, List.findSome?_cons, hcommand c hc]

/-- A record of a character that is spelled with it. -/
def capRecord : SymbolRecord := ⟨'∩', "\\cap", "\\mathbin", "intersection"⟩

/-- A record of a character that only other texts have. -/
def cupRecord : SymbolRecord := ⟨'∪', "\\cup", "\\mathbin", "union /union"⟩

/-- A speller whose lexicon knows an intersection and an accent. -/
def capped : Speller where
  preferences := { overrides := Std.ExtTreeMap.ofList [('x', "\\chi")] }
  lexicon := .build .empty [{ name := "in", records := [capRecord] }]

/-- A speller that has more commands for the intersection, and other commands for other characters.
-/
def recapped : Speller where
  preferences := {}
  lexicon := {
    commands := Std.ExtTreeMap.ofList [('∩', ["\\cap", "\\bigcap"]), ('x', ["\\times"])] }

/-- An accented letter and an intersection reach four characters.  What is said about others has no
effect on them, while the text is spelled with what the user and the lexicon have for these. -/
theorem spell_local_capped :
    (isClosed ['é', '∩', 'e', '\u0301'] = true ∧ ¬ Reaches "é∩".toList 'x' ∧
      ¬ Reaches "é∩".toList '∪') ∧
      (capped.spell ⟨"in", 1, 0⟩ "é∩").text = "\\'\x7be\x7d\\cap " ∧
      capped.spell ⟨"in", 1, 0⟩ "é∩" = recapped.spell ⟨"in", 1, 0⟩ "é∩" ∧
      (Speller.mk (capped.preferences.withOverride 'x' "\\xi") capped.lexicon).spell
          ⟨"in", 1, 0⟩ "é∩" =
        capped.spell ⟨"in", 1, 0⟩ "é∩" ∧
      (Speller.mk {} (.build .empty
          [⟨"in", [capRecord, cupRecord], [⟨"\\Cap", "\\cap"⟩], []⟩])).spell ⟨"in", 1, 0⟩ "é∩" =
        (Speller.mk {} (.build .empty [⟨"in", [capRecord], [], []⟩])).spell ⟨"in", 1, 0⟩ "é∩" := by
  have hclosed : isClosed ['é', '∩', 'e', '\u0301'] = true := by decide +kernel
  have hreached : ∀ c, Reaches "é∩".toList c → c ∈ ['é', '∩', 'e', '\u0301'] := by
    have hsub : "é∩".toList.all ['é', '∩', 'e', '\u0301'].contains = true := by decide
    intro c
    exact Reaches.mem_of_isClosed hclosed fun c hc =>
      List.contains_iff_mem.1 (List.all_eq_true.1 hsub c hc)
  have hx : ¬ Reaches "é∩".toList 'x' := fun h => absurd (hreached _ h) (by decide)
  have hcup : ¬ Reaches "é∩".toList '∪' := fun h => absurd (hreached _ h) (by decide)
  obtain ⟨hgeneral, hoverrides, hrecords⟩ := spell_local ⟨"in", 1, 0⟩ "é∩"
  refine ⟨⟨hclosed, hx, hcup⟩, by decide +kernel, ?_, (hoverrides capped 'x' hx).1 "\\xi", ?_⟩
  · refine hgeneral capped recapped ⟨rfl, rfl, rfl, rfl, rfl, rfl⟩ fun c hc => ?_
    have hagree : ['é', '∩', 'e', '\u0301'].all (fun c =>
        capped.preferences.overrides[c]? == recapped.preferences.overrides[c]? &&
          capped.lexicon.canonical? c == recapped.lexicon.canonical? c) = true := by
      decide +kernel
    have hboth := List.all_eq_true.1 hagree c (hreached c hc)
    rw [Bool.and_eq_true, beq_iff_eq, beq_iff_eq] at hboth
    exact ⟨hboth.1, hboth.2⟩
  · refine hrecords {} .empty [] [] _ _ [capRecord] [cupRecord] [] [] rfl rfl fun r hr _ => ?_
    obtain rfl : r = cupRecord := List.mem_singleton.1 hr
    exact hcup

end Speller

end TexGlyph
