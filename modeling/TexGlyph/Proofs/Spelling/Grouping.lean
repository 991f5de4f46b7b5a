import TexGlyph.Proofs.Latex.Group
import TexGlyph.Proofs.Spelling.Idempotence

/-!
# The groups of a spelling

Whatever is put around a text keeps it grouped (`grouped_wrap`), so a spelling is grouped unless
markup is written as it stands.  A text without markup brings in none, and of the decompositions
only those of small forms do: `﹛` is spelled with a bare brace, and `﹪` with a percent sign that
makes a comment of the braces after it.  `Speller.exposes` says for which characters this happens,
and `balanced_scan_spell` that the groups of a spelling are balanced if and only if it does not.
-/

namespace TexGlyph

/-! ### Commands and characters -/

/-- Whether a command is a control word or has no markup in it. -/
def IsOrdinaryCommand (command : String) : Prop :=
  (∃ name, command.toList = '\\' :: name ∧ ∀ c ∈ name, Category.isLetter c = true) ∨
    ∀ c ∈ command.toList, isMarkup c = false

theorem isMarkup_of_isForeign {c : Char} (h : Speller.isForeign c = true) : isMarkup c = false :=
  isMarkup_eq_false_of (by decide) h

namespace Grouped

theorem charFragment {c : Char} (h : isMarkup c = false) :
    Grouped (Speller.charFragment c).toList := by
  rw [Speller.charFragment, String.toList_ofList]
  exact .of_all fun x hx => List.mem_singleton.1 hx ▸ h

/-- The blank after a command gives it a name, even if the command is only a backslash. -/
theorem commandFragment {command : String} (h : IsOrdinaryCommand command) :
    Grouped (Speller.commandFragment command).toList := by
  rw [Speller.commandFragment, String.toList_append]
  have hblank : Grouped " ".toList := .of_plain (by decide)
  rcases h with ⟨name, heq, hname⟩ | hplain
  · rw [heq]
    refine .control (by simp) fun c hc => ?_
    rcases List.mem_append.1 hc with hc | hc
    · exact isMarkup_of_isText (Category.isText_of_isLetter (hname c hc))
    · obtain rfl : c = ' ' := by simpa using hc
      decide
  · exact (Grouped.of_all hplain).append hblank

end Grouped

theorem isMarkup_of_isWordCode {c : Char} (h : isWordCode c.toNat = true) : isMarkup c = false :=
  isMarkup_eq_false_of (p := fun c => isWordCode c.toNat) (by decide) h

theorem grouped_greekFragment {c : Char} {name : String} (h : charName? c = some name) :
    Grouped (Speller.commandFragment ("\\" ++ greekCommand name)).toList := by
  have htoList : (Speller.commandFragment ("\\" ++ greekCommand name)).toList =
      '\\' :: ((greekCommand name).toList ++ [' ']) := by
    simp [Speller.commandFragment]
  rw [htoList]
  refine .control (by simp) fun x hx => ?_
  rcases List.mem_append.1 hx with hx | hx
  · exact isMarkup_of_isWordCode (isWordCode_of_mem_greekCommand h hx)
  · obtain rfl : x = ' ' := by simpa using hx
    decide

/-! ### Fixed texts and wrappings -/

/-- Whether a text is a control sequence with a name that has no markup in it. -/
def isControl (command : String) : Bool :=
  match command.toList with
  | '\\' :: name => !name.isEmpty && name.all (!isMarkup ·)
  | _ => false

theorem grouped_of_isControl {command : String} (h : isControl command = true) :
    Grouped command.toList := by
  unfold isControl at h
  split at h
  · rename_i name heq
    simp only [Bool.and_eq_true, Bool.not_eq_true', List.isEmpty_eq_false_iff, List.all_eq_true]
      at h
    rw [heq]
    exact .control h.1 h.2
  · cases h

theorem isControl_fontStyles : fontStyles.all (fun style => isControl style.2) = true := by decide

theorem isControl_accentCommands :
    accentTags.all (fun entry => [AccentMode.text, .math, .auto].all fun mode =>
      isControl (mode.command entry.2)) = true := by
  decide

theorem all_spellings_plain :
    (quoteSpellings ++ dashSpellings).all (fun entry =>
      entry.2.toList.all (!isMarkup ·)) = true := by
  decide

/-- Accent commands are grouped, in every mode. -/
theorem grouped_accentCommand {mark tag : Char} (h : accentTag? mark = some tag)
    (mode : AccentMode) : Grouped (mode.command tag).toList := by
  have hall := List.all_eq_true.1 isControl_accentCommands (mark, tag) (mem_of_lookup h)
  have hmem : mode ∈ [AccentMode.text, .math, .auto] := by cases mode <;> decide
  exact grouped_of_isControl (List.all_eq_true.1 hall mode hmem)

theorem grouped_of_ligature? {s : Speller} {c : Char} {spelling : String}
    (h : s.ligature? c = some spelling) : Grouped spelling.toList :=
  .of_plain (List.all_eq_true.1 all_spellings_plain (c, spelling) (mem_spellings_of_ligature? h))

theorem grouped_braces {text : String} (h : Grouped text.toList) :
    Grouped ("\x7b" ++ text ++ "\x7d").toList := by
  rw [String.toList_append, String.toList_append]
  exact h.enclosed

theorem grouped_wrapStyles {styles : List (String × String)}
    (h : ∀ style ∈ styles, isControl style.2 = true) (name : List Char) {body : String}
    (hbody : Grouped body.toList) : Grouped (wrapStyles styles name body).toList := by
  induction styles generalizing name body with
  | nil => exact hbody
  | cons style styles ih =>
    have htail := fun st hst => h st (List.mem_cons_of_mem style hst)
    have hstyle := grouped_of_isControl (h style List.mem_cons_self)
    rw [wrapStyles]
    split
    · exact ih htail _ (hstyle.applied hbody)
    · exact ih htail _ hbody

theorem grouped_variantForm {text : String} (h : Grouped text.toList) :
    Grouped (variantForm text).toList := by
  unfold variantForm
  split
  · rename_i rest hrest
    have hvar : Grouped "\\var".toList := grouped_of_isControl (by decide)
    have htext : Grouped (String.ofList rest).toList := by
      rw [String.toList_ofList]
      exact Grouped.of_escape (hrest ▸ h)
    rw [String.toList_append]
    exact hvar.append htext
  · exact h

/-- **Wrappings keep a text grouped.** -/
theorem grouped_wrap {s : Speller} {wrap : String → String} (h : s.Wrapping wrap) {text : String}
    (htext : Grouped text.toList) : Grouped (wrap text).toList := by
  have hsmall : Grouped "\\scriptsize".toList := grouped_of_isControl (by decide)
  have hsuper : Grouped "^".toList := .of_plain (by decide)
  have hsub : Grouped "_".toList := .of_plain (by decide)
  cases h with
  | bare => exact htext
  | font name => exact grouped_wrapStyles (List.all_eq_true.1 isControl_fontStyles) _ htext
  | small => exact grouped_braces (hsmall.applied htext)
  | variant => exact grouped_variantForm htext
  | super => exact hsuper.applied htext
  | sub => exact hsub.applied htext
  | accent hmark => exact (grouped_accentCommand hmark _).applied htext

theorem grouped_fractionText {above below : String} (habove : Grouped above.toList)
    (hbelow : Grouped below.toList) : Grouped (Speller.fractionText above below).toList := by
  have heq : Speller.fractionText above below =
      "\x7b" ++ applied (applied "\\sfrac" above) below ++ "\x7d" := by
    rw [← String.toList_inj]
    simp [Speller.fractionText, applied]
  have hcommand : Grouped "\\sfrac".toList := grouped_of_isControl (by decide)
  rw [heq]
  exact grouped_braces ((hcommand.applied habove).applied hbelow)

/-! ### Actions -/

namespace Action

/-- Whether what an action writes is grouped. -/
def Groups : Action → Prop
  | note _ => True
  | write fragment => Grouped fragment.toList
  | accent _ command => Grouped command.toList

theorem grouped_apply {action : Action} (h : action.Groups) {stack : List String}
    (hstack : ∀ fragment ∈ stack, Grouped fragment.toList) :
    ∀ fragment ∈ action.apply stack, Grouped fragment.toList := by
  cases action with
  | note n => exact hstack
  | write fragment => exact List.forall_mem_cons.2 ⟨h, hstack⟩
  | accent mark command =>
    cases stack with
    | nil =>
      have hblank : Grouped " ".toList := .of_plain (by decide)
      exact List.forall_mem_singleton.2 (Grouped.applied h hblank)
    | cons base stack =>
      obtain ⟨hbase, hbelow⟩ := List.forall_mem_cons.1 hstack
      exact List.forall_mem_cons.2 ⟨Grouped.applied h hbase, hbelow⟩

/-- Actions that write grouped texts leave grouped fragments. -/
theorem grouped_perform {actions : List Action} (h : ∀ action ∈ actions, action.Groups)
    {stack : List String} (hstack : ∀ fragment ∈ stack, Grouped fragment.toList) :
    ∀ fragment ∈ (perform actions stack).1, Grouped fragment.toList := by
  induction actions generalizing stack with
  | nil => exact hstack
  | cons action actions ih =>
    obtain ⟨haction, hactions⟩ := List.forall_mem_cons.1 h
    exact ih hactions (grouped_apply haction hstack)

/-- The text of grouped fragments is grouped. -/
theorem grouped_textOf {stack : List String}
    (h : ∀ fragment ∈ stack, Grouped fragment.toList) : Grouped (textOf stack).toList := by
  induction stack with
  | nil => exact .of_plain (by decide)
  | cons fragment stack ih =>
    obtain ⟨hfragment, hstack⟩ := List.forall_mem_cons.1 h
    rw [textOf_cons, String.toList_append]
    exact (ih hstack).append hfragment

theorem grouped_apart {actions : List Action} (h : ∀ action ∈ actions, action.Groups) :
    Grouped (apart actions).1.toList :=
  grouped_textOf (grouped_perform h fun _ hmem => absurd hmem List.not_mem_nil)

/-- Actions that write one grouped fragment write grouped texts only. -/
theorem WritesOnce.groups {actions : List Action} {fragment : String}
    (h : WritesOnce actions fragment) (hfragment : Grouped fragment.toList) :
    ∀ action ∈ actions, action.Groups := by
  obtain ⟨remarks, rfl⟩ := h
  intro action hmem
  rcases List.mem_append.1 hmem with hmem | hmem
  · obtain ⟨n, _, rfl⟩ := List.mem_map.1 hmem
    trivial
  · rw [List.mem_singleton.1 hmem]
    exact hfragment

end Action

namespace Speller

/-! ### The actions for a character -/

/-- Whether the commands that a speller takes from the user and from the lexicon are ordinary. -/
structure OrdinaryCommands (s : Speller) : Prop where
  /-- The commands of the user are. -/
  overrides : ∀ (c : Char) (command : String),
    s.preferences.overrides[c]? = some command → IsOrdinaryCommand command
  /-- The canonical commands of the lexicon are. -/
  symbols : ∀ (c : Char) (command : String),
    s.lexicon.canonical? c = some command → IsOrdinaryCommand command

/-- Whether a character is spelled with markup as it stands: it is a small form of markup, and the
rules that come before the decomposition pass over it and over the markup. -/
def exposes (s : Speller) (c : Char) : Bool :=
  match Decomposition.of? c with
  | some (.small base) => isMarkup base && (s.direct? c).isNone && (s.direct? base).isNone
  | _ => false

theorem exposes_iff {s : Speller} {c : Char} :
    s.exposes c = true ↔ ∃ base, Decomposition.of? c = some (.small base) ∧
      isMarkup base = true ∧ s.direct? c = none ∧ s.direct? base = none := by
  unfold exposes
  split
  · rename_i base hd
    simp [hd, and_assoc]
  · rename_i hne
    simp only [Bool.false_eq_true, false_iff]
    rintro ⟨base, hd, -⟩
    exact hne base hd

variable {s : Speller}

theorem groups_write {fragment : String} (h : Grouped fragment.toList) (remarks : List Note) :
    ∀ action ∈ remarks.map Action.note ++ [.write fragment], action.Groups :=
  Action.WritesOnce.groups ⟨remarks, rfl⟩ h

/-- The rules after the decomposition write grouped texts, if the character is no markup. -/
theorem groups_fallback (hs : s.OrdinaryCommands) {c : Char} (hc : isMarkup c = false) :
    ∀ action ∈ s.fallback c, action.Groups := by
  cases s.fallback_cases c with
  | greek name hname eq =>
    rw [eq]
    exact groups_write (grouped_greekFragment hname) []
  | symbol command hcommand _ eq =>
    rw [eq]
    exact groups_write (.commandFragment (hs.symbols c command hcommand)) [.symbol c command]
  | unconvertible _ eq =>
    rw [eq]
    exact groups_write (.charFragment hc) [.unconvertible c]
  | ascii _ eq =>
    rw [eq]
    exact groups_write (.charFragment hc) []

/-- **The actions for a character write grouped texts**, unless markup is spelled as it stands. -/
theorem groups_actions (hs : s.OrdinaryCommands) {c : Char}
    (hmarkup : isMarkup c = true → s.direct? c ≠ none) (hexposes : s.exposes c = false) :
    ∀ action ∈ s.actions c, action.Groups := by
  induction c using Decomposition.scalarInduction with
  | step c ih =>
  cases s.spelled c with
  | ligature spelling hspelling eq =>
    rw [eq]
    exact groups_write (grouped_of_ligature? hspelling) []
  | overridden command hcommand eq =>
    rw [eq]
    exact groups_write (.commandFragment (hs.overrides c command hcommand)) [.overridden c command]
  | preferred command hcommand _ eq =>
    rw [eq]
    exact groups_write (.commandFragment (hs.symbols c command hcommand)) [.symbol c command]
  | overlay tag htag _ eq =>
    rw [eq]
    exact List.forall_mem_singleton.2 (grouped_accentCommand htag _)
  | fallback _ eq hdirect =>
    rw [eq]
    refine groups_fallback hs ?_
    rw [← Bool.not_eq_true]
    exact fun hc => hmarkup hc hdirect
  | decomposed d hd actions hactions eq hdirect =>
    have hplain : isMarkup c = false := isMarkup_of_isForeign (isForeign_of_decomposition hd)
    -- The decomposition has markup in it only if `c` is a small form, which exposes none.
    have hscalar : ∀ x ∈ d.scalars, ∀ action ∈ s.actions x, action.Groups := by
      intro x hx
      refine ih d hd x hx (fun hxmarkup hxdirect => ?_) ?_
      · obtain rfl := Decomposition.eq_small_of_isMarkup hd hx hxmarkup
        rw [exposes_iff.2 ⟨x, hd, hxmarkup, hdirect, hxdirect⟩] at hexposes
        cases hexposes
      · rw [← Bool.not_eq_true, exposes_iff]
        rintro ⟨base, hbase, -⟩
        exact Decomposition.of?_ne_small_of_mem_scalars hd hx hbase
    have hchars : ∀ chars : List Char, (∀ x ∈ chars, x ∈ d.scalars) →
        ∀ action ∈ chars.flatMap s.actions, action.Groups := by
      intro chars hsub action hmem
      obtain ⟨x, hx, hmem⟩ := List.mem_flatMap.1 hmem
      exact hscalar x (hsub x hx) action hmem
    rw [eq]
    refine List.forall_mem_cons.2 ⟨trivial, ?_⟩
    cases hactions with
    | enclosed hsub hwrap =>
      exact groups_write (grouped_wrap hwrap (Action.grouped_apart (hchars _ hsub))) _
    | fraction numerator denominator =>
      have habove := hchars numerator fun x hx => List.mem_append_left denominator hx
      have hbelow := hchars denominator fun x hx => List.mem_append_right numerator hx
      exact groups_write (grouped_fractionText (Action.grouped_apart habove)
        (Action.grouped_apart hbelow)) _
    | ligature first rest _ => exact hchars _ fun x hx => hx
    | refused n _ => exact List.forall_mem_cons.2 ⟨trivial, groups_fallback hs hplain⟩
    | unsupported tag => exact groups_write (.charFragment hplain) [.unsupportedTag tag c]
    | kept => exact groups_write (.charFragment hplain) []

/-! ### Texts -/

/-- The text of a spelling is grouped, if no character brings in bare markup. -/
theorem grouped_text_spell (hs : s.OrdinaryCommands) {text : String}
    (h : ∀ c ∈ text.toList, isMarkup c = false ∧ s.exposes c = false) (p : Position) :
    Grouped (s.spell p text).text.toList := by
  rw [text_spell]
  apply Action.grouped_textOf
  refine List.foldlRecOn (motive := fun stack => ∀ fragment ∈ stack, Grouped fragment.toList)
    text.toList s.push (fun _ hmem => absurd hmem List.not_mem_nil) ?_
  intro stack hstack c hc
  obtain ⟨hplain, hexposes⟩ := h c hc
  refine Action.grouped_perform (groups_actions hs (fun hmarkup => ?_) hexposes) hstack
  rw [hplain] at hmarkup
  cases hmarkup

/-- A character that is spelled with markup as it stands has it in small type. -/
theorem text_spell_of_exposes {c : Char} (h : s.exposes c = true) (p : Position) :
    ∃ base, isMarkup base = true ∧
      (s.spell p (String.ofList [c])).text =
        "\x7b" ++ applied "\\scriptsize" (charFragment base) ++ "\x7d" := by
  obtain ⟨base, hd, hmarkup, hdirect, hbase⟩ := exposes_iff.1 h
  have hascii : isForeign base = false := by
    rw [← Bool.not_eq_true]
    intro hforeign
    rw [isMarkup_of_isForeign hforeign] at hmarkup
    cases hmarkup
  have hkeeps : s.Keeps base := keeps_of_direct?_eq_none hascii hbase
  have hrendered : s.rendered c (.small base) = Action.enclose (s.actions base) fun text =>
      "\x7b" ++ applied "\\scriptsize" text ++ "\x7d" := by
    rw [rendered, decomposed]
  have hwrites : Action.WritesOnce (s.actions c)
      ("\x7b" ++ applied "\\scriptsize" (charFragment base) ++ "\x7d") := by
    rw [s.actions_of_decomposition hdirect hd, hrendered, ← hkeeps.apart_eq]
    exact (Action.writesOnce_enclose _ _).note_cons _
  exact ⟨base, hmarkup, s.text_spell_singleton hwrites p⟩

/-- Bare markup in small type leaves a group open or closes one too many. -/
theorem not_balanced_bare_markup {base : Char} (h : isMarkup base = true) :
    ¬ Balanced .beginGroup .endGroup (Token.scan
      ("\x7b" ++ applied "\\scriptsize" (charFragment base) ++ "\x7d").toList) := by
  intro hbalanced
  have htotal := hbalanced.total
  simp only [isMarkup, Bool.or_eq_true, decide_eq_true_eq] at h
  rcases h with ((rfl | rfl) | rfl) | rfl
  all_goals
    revert htotal
    decide +kernel

/-- **The groups of a spelling are balanced, unless a small form brings in bare markup.**  Where
commands are ordinary, this is so for every text without markup in which no character exposes any,
and it fails for every character that does. -/
theorem balanced_scan_spell (s : Speller) (hs : s.OrdinaryCommands) (p : Position) :
    (∀ text : String, (∀ c ∈ text.toList, isMarkup c = false ∧ s.exposes c = false) →
      Balanced .beginGroup .endGroup (Token.scan (s.spell p text).text.toList)) ∧
    ∀ c : Char, s.exposes c = true →
      ¬ Balanced .beginGroup .endGroup
        (Token.scan (s.spell p (String.ofList [c])).text.toList) := by
  constructor
  · intro text h
    exact (grouped_text_spell hs h p).balanced_scan
  · intro c h
    obtain ⟨base, hmarkup, htext⟩ := text_spell_of_exposes h p
    rw [htext]
    exact not_balanced_bare_markup hmarkup

/-- A speller with a command of the user for the opening brace and a command of the lexicon. -/
def bracing : Speller where
  preferences := Preferences.withOverride {} '\x7b' "\\lbrace"
  lexicon := { commands := Std.ExtTreeMap.insert ∅ '∩' ["\\cap"] }

theorem ordinaryCommands_bracing : bracing.OrdinaryCommands where
  overrides c command h := by
    rw [eq_of_getElem?_singleton h]
    exact Or.inl ⟨"lbrace".toList, by decide, List.all_eq_true.1 (by decide)⟩
  symbols c command h := by
    rw [Lexicon.eq_of_canonical?_singleton rfl h]
    exact Or.inl ⟨"cap".toList, by decide, List.all_eq_true.1 (by decide)⟩

/-- The small opening brace is grouped where the brace has a command; the closing one is not. -/
theorem balanced_scan_spell_bracing :
    bracing.OrdinaryCommands ∧
      (∀ c ∈ "﹛ḉ½∩\u0301".toList, isMarkup c = false ∧ bracing.exposes c = false) ∧
      (bracing.spell ⟨"in", 1, 0⟩ "﹛ḉ½∩\u0301").text =
        "\x7b\\scriptsize\x7b\\lbrace \x7d\x7d\\'\x7b\\c\x7bc\x7d\x7d" ++
          "\x7b\\sfrac\x7b1\x7d\x7b2\x7d\x7d\\'\x7b\\cap \x7d" ∧
      Balanced .beginGroup .endGroup
        (Token.scan (bracing.spell ⟨"in", 1, 0⟩ "﹛ḉ½∩\u0301").text.toList) ∧
      bracing.exposes '﹜' = true ∧
      ¬ Balanced .beginGroup .endGroup
        (Token.scan (bracing.spell ⟨"in", 1, 0⟩ (String.ofList ['﹜'])).text.toList) := by
  obtain ⟨hgrouped, hexposed⟩ :=
    balanced_scan_spell bracing ordinaryCommands_bracing ⟨"in", 1, 0⟩
  have htext : "﹛ḉ½∩\u0301".toList.all (fun c => !isMarkup c && !bracing.exposes c) = true := by
    decide +kernel
  have hplain : ∀ c ∈ "﹛ḉ½∩\u0301".toList, isMarkup c = false ∧ bracing.exposes c = false := by
    intro c hc
    simpa using List.all_eq_true.1 htext c hc
  have hexposes : bracing.exposes '﹜' = true := by decide +kernel
  exact ⟨ordinaryCommands_bracing, hplain, by decide +kernel, hgrouped _ hplain, hexposes,
    hexposed _ hexposes⟩

/-- The usual preferences and no commands at all. -/
def wordless : Speller where
  preferences := {}
  lexicon := { commands := ∅ }

/-- A text without markup whose spelling opens groups and makes a comment of what closes them. -/
theorem not_balanced_scan_spell_percent :
    wordless.OrdinaryCommands ∧ (∀ c ∈ "﹪".toList, isMarkup c = false) ∧
      (wordless.spell ⟨"in", 1, 0⟩ "﹪").text = "\x7b\\scriptsize\x7b%\x7d\x7d" ∧
      ¬ Balanced .beginGroup .endGroup
        (Token.scan (wordless.spell ⟨"in", 1, 0⟩ "﹪").text.toList) := by
  have hcommands : wordless.OrdinaryCommands := by
    constructor
    · intro c command h
      simp [wordless] at h
    · intro c command h
      simp [wordless, Lexicon.canonical?] at h
  have htext : (wordless.spell ⟨"in", 1, 0⟩ "﹪").text = "\x7b\\scriptsize\x7b%\x7d\x7d" := by
    decide +kernel
  have hplain : ∀ c ∈ "﹪".toList, isMarkup c = false := by
    intro c hc
    obtain rfl : c = '﹪' := List.mem_singleton.1 hc
    decide
  refine ⟨hcommands, hplain, htext, ?_⟩
  rw [htext]
  intro hbalanced
  exact absurd hbalanced.total (by decide +kernel)

end Speller

end TexGlyph
