import Mathlib.Data.String.Basic
import Mathlib.Order.Bounds.Basic
import TexGlyph.Config.Basic
import TexGlyph.Proofs.Lexicon.Table
import TexGlyph.Proofs.Spelling.OverrideKey
import TexGlyph.Spelling.Speller

/-!
# The overrides of a configuration

The keys of the overrides are taken in their order.  So a key that stands for no character is the
fault if it is the first of them (`SpellingConfig.foldlM_addOverride_eq_error_iff`), and of several
keys for one character the last is in force (`SpellingConfig.getElem?_foldlM_addOverride`).  The
order is that of texts, where the first of some keys is the least of them and the last is the
greatest (`find?_eq_some_iff_isLeast`), so nothing else of the table decides what is made of it
(`SpellingConfig.preferences_keys`).

Outside ASCII the greatest key of a character is the character itself, as all other ways to write it
begin with a character of ASCII (`Preferences.compare_singleton_ne_lt`).
-/

namespace TexGlyph

/-! ### The first and the last in an order -/

section Order

variable {α : Type} [LinearOrder α]

/-- Where the elements go up, the first that passes a test is the least that does. -/
theorem find?_eq_some_iff_isLeast {l : List α} (hl : l.Pairwise (· < ·)) {test : α → Bool} {a : α} :
    l.find? test = some a ↔ IsLeast {b | b ∈ l ∧ test b = true} a := by
  induction l with
  | nil =>
    refine iff_of_false nofun fun h => ?_
    exact List.not_mem_nil h.1.1
  | cons b l ih =>
    rw [List.pairwise_cons] at hl
    rw [List.find?_cons]
    cases htest : test b with
    | true =>
      -- All others are greater, whether they pass the test or not.
      have hleast : IsLeast {c | c ∈ b :: l ∧ test c = true} b := by
        refine ⟨⟨List.mem_cons_self, htest⟩, fun c hc => ?_⟩
        rcases List.mem_cons.1 hc.1 with rfl | hmem
        · exact le_refl c
        · exact (hl.1 c hmem).le
      constructor
      · intro h
        rwa [← Option.some.inj h]
      · intro h
        exact congrArg some (hleast.unique h)
    | false =>
      have hset : {c | c ∈ b :: l ∧ test c = true} = {c | c ∈ l ∧ test c = true} := by
        ext c
        refine ⟨fun hc => ⟨(List.mem_cons.1 hc.1).resolve_left ?_, hc.2⟩,
          fun hc => ⟨List.mem_cons_of_mem b hc.1, hc.2⟩⟩
        rintro rfl
        exact Bool.false_ne_true (htest.symm.trans hc.2)
      rw [hset]
      exact ih hl.2

/-- Where the elements go up, the last that passes a test is the greatest that does. -/
theorem find?_reverse_eq_some_iff_isGreatest {l : List α} (hl : l.Pairwise (· < ·))
    {test : α → Bool} {a : α} :
    l.reverse.find? test = some a ↔ IsGreatest {b | b ∈ l ∧ test b = true} a := by
  have hdual : l.reverse.Pairwise fun a b => b < a := List.pairwise_reverse.2 hl
  have hset : {b | b ∈ l ∧ test b = true} = {b | b ∈ l.reverse ∧ test b = true} := by
    ext b
    exact and_congr_left fun _ => List.mem_reverse.symm
  rw [hset]
  exact @find?_eq_some_iff_isLeast (OrderDual α) _ _ hdual _ _

end Order

namespace SpellingConfig

/-- The keys of a configuration that stand for no character. -/
def badKeys (config : SpellingConfig) : Set String :=
  {key | key ∈ config.overrides ∧ ∀ c, Preferences.keyed key ≠ .ok c}

/-- The keys of a configuration that stand for a character. -/
def keysOf (config : SpellingConfig) (c : Char) : Set String :=
  {key | key ∈ config.overrides ∧ Preferences.keyed key = .ok c}

/-- The choices of a configuration, without the commands of the user. -/
def choices (config : SpellingConfig) : Preferences where
  fonts := config.fonts
  accents := config.accents
  preferMath := config.preferMath
  accentMode := config.accentMode
  quotes := config.quotes
  dashes := config.dashes

/-! ### One key after the other -/

/-- Takes the command of a key. -/
def addOverride (p : Preferences) (entry : String × String) : Except Fault Preferences :=
  (Preferences.keyed entry.1).map (p.withOverride · entry.2)

/-- A command is taken if its key stands for a character, and is the command of this character. -/
theorem addOverride_eq_ok_iff {p p' : Preferences} {entry : String × String} :
    addOverride p entry = .ok p' ↔
      ∃ c, Preferences.keyed? entry.1 = some c ∧ p' = p.withOverride c entry.2 := by
  rw [addOverride, Preferences.keyed]
  cases Preferences.keyed? entry.1 with
  | none => simp [Except.map]
  | some c => simp [Except.map, eq_comm]

/-- Commands are taken one after the other, so the last one for a character is in force. -/
theorem getElem?_foldlM_addOverride {entries : List (String × String)} {p p' : Preferences}
    (h : entries.foldlM addOverride p = .ok p') (c : Char) :
    p'.overrides[c]? =
      ((entries.reverse.find? fun entry => Preferences.keyed? entry.1 == some c).map Prod.snd).or
        p.overrides[c]? := by
  induction entries generalizing p with
  | nil =>
    obtain rfl : p = p' := Except.ok.inj h
    rfl
  | cons entry entries ih =>
    rw [List.foldlM_cons] at h
    obtain ⟨first, hfirst, h⟩ := exists_of_bind_eq_ok h
    obtain ⟨d, hd, rfl⟩ := addOverride_eq_ok_iff.1 hfirst
    rw [ih h, List.reverse_cons, List.find?_append, Preferences.withOverride,
      Std.ExtTreeMap.getElem?_insert, List.find?_cons, List.find?_nil, hd]
    -- The command of the first entry is in force only if no later key stands for the character.
    by_cases hdc : d = c
    · subst hdc
      rw [if_pos Std.ReflOrd.compare_self, beq_self_eq_true]
      cases entries.reverse.find? fun entry => Preferences.keyed? entry.1 == some d <;> rfl
    · have hne : compare d c ≠ .eq := by rwa [Ne, Std.LawfulEqOrd.compare_eq_iff_eq]
      rw [if_neg hne, beq_eq_false_iff_ne.2 fun heq => hdc (Option.some.inj heq)]
      cases entries.reverse.find? fun entry => Preferences.keyed? entry.1 == some c <;> rfl

/-- The fault is the first key that stands for no character, whatever was taken before. -/
theorem foldlM_addOverride_eq_error_iff {entries : List (String × String)} {p : Preferences}
    {fault : Fault} :
    entries.foldlM addOverride p = .error fault ↔
      ∃ entry, (entries.find? fun entry => (Preferences.keyed? entry.1).isNone) = some entry ∧
        fault = .codepoint entry.1 := by
  induction entries generalizing p with
  | nil => simp [pure, Except.pure]
  | cons entry entries ih =>
    rw [List.foldlM_cons, List.find?_cons]
    cases hkey : Preferences.keyed? entry.1 with
    | none =>
      -- The fold ends here, and the search, too.
      have herror : addOverride p entry = .error (.codepoint entry.1) := by
        rw [addOverride, Preferences.keyed, hkey]
        rfl
      rw [herror, Option.isNone_none]
      simp [bind, Except.bind, eq_comm]
    | some c =>
      rw [addOverride_eq_ok_iff.2 ⟨c, hkey, rfl⟩, Option.isNone_some]
      exact ih

/-! ### All keys of a table -/

section Table

variable {config : SpellingConfig}

theorem pairwise_lt_keys (table : ReplacementTable) : table.keys.Pairwise (· < ·) :=
  Std.ExtTreeMap.ordered_keys.imp fun h => compare_lt_iff_lt.1 h

/-- The first entry whose key passes a test has the first such key. -/
theorem map_find?_toList (table : ReplacementTable) (test : String → Bool) :
    (table.toList.find? fun entry => test entry.1).map Prod.fst = table.keys.find? test := by
  rw [← Std.ExtTreeMap.map_fst_toList_eq_keys, List.find?_map]
  rfl

/-- The last entry whose key passes a test has the last such key. -/
theorem map_find?_reverse_toList (table : ReplacementTable) (test : String → Bool) :
    (table.toList.reverse.find? fun entry => test entry.1).map Prod.fst =
      table.keys.reverse.find? test := by
  rw [← Std.ExtTreeMap.map_fst_toList_eq_keys, ← List.map_reverse, List.find?_map]
  rfl

theorem badKeys_eq (config : SpellingConfig) :
    config.badKeys =
      {key | key ∈ config.overrides.keys ∧ (Preferences.keyed? key).isNone = true} := by
  ext key
  refine and_congr Std.ExtTreeMap.mem_keys.symm ?_
  rw [Option.isNone_iff_eq_none, Option.eq_none_iff_forall_ne_some]
  exact forall_congr' fun c => not_congr Preferences.keyed_eq_ok_iff_keyed?

theorem keysOf_eq (config : SpellingConfig) (c : Char) :
    config.keysOf c =
      {key | key ∈ config.overrides.keys ∧ (Preferences.keyed? key == some c) = true} := by
  ext key
  refine and_congr Std.ExtTreeMap.mem_keys.symm ?_
  rw [beq_iff_eq]
  exact Preferences.keyed_eq_ok_iff_keyed?

/-- Commands are taken in the order of their keys. -/
theorem preferences_eq_foldlM (config : SpellingConfig) :
    config.preferences = config.overrides.toList.foldlM addOverride config.choices := rfl

/-- **The fault of a table is its least key that stands for no character.** -/
theorem preferences_eq_error_iff {fault : Fault} :
    config.preferences = .error fault ↔
      ∃ key, IsLeast config.badKeys key ∧ fault = .codepoint key := by
  have hleast : ∀ key, IsLeast config.badKeys key ↔
      ∃ entry, (config.overrides.toList.find? fun entry =>
        (Preferences.keyed? entry.1).isNone) = some entry ∧ entry.1 = key := by
    intro key
    rw [badKeys_eq, ← find?_eq_some_iff_isLeast (pairwise_lt_keys config.overrides),
      ← map_find?_toList, Option.map_eq_some_iff]
  rw [preferences_eq_foldlM, foldlM_addOverride_eq_error_iff]
  constructor
  · rintro ⟨entry, hentry, rfl⟩
    exact ⟨entry.1, (hleast entry.1).2 ⟨entry, hentry, rfl⟩, rfl⟩
  · rintro ⟨key, hkey, rfl⟩
    obtain ⟨entry, hentry, rfl⟩ := (hleast key).1 hkey
    exact ⟨entry, hentry, rfl⟩

/-- If any key stands for no character, there is a least one. -/
theorem exists_isLeast_badKeys (h : config.badKeys.Nonempty) :
    ∃ key, IsLeast config.badKeys key := by
  rw [badKeys_eq] at h ⊢
  obtain ⟨key, hkey, hbad⟩ := h
  have hfound : (config.overrides.keys.find? fun key => (Preferences.keyed? key).isNone).isSome :=
    List.find?_isSome.2 ⟨key, hkey, hbad⟩
  obtain ⟨least, hleast⟩ := Option.isSome_iff_exists.1 hfound
  exact ⟨least, (find?_eq_some_iff_isLeast (pairwise_lt_keys config.overrides)).1 hleast⟩

/-- **A table is taken exactly if all of its keys stand for characters.** -/
theorem exists_preferences_iff :
    (∃ p, config.preferences = .ok p) ↔
      ∀ key ∈ config.overrides, ∃ c, Preferences.keyed key = .ok c := by
  constructor
  · rintro ⟨p, hp⟩ key hmem
    by_contra! hbad
    -- One bad key is enough: then there is a least one, and this is the fault.
    obtain ⟨least, hleast⟩ := exists_isLeast_badKeys ⟨key, hmem, hbad⟩
    have herror := preferences_eq_error_iff.2 ⟨least, hleast, rfl⟩
    rw [hp] at herror
    cases herror
  · intro h
    cases hresult : config.preferences with
    | ok p => exact ⟨p, rfl⟩
    | error fault =>
      obtain ⟨key, ⟨⟨hmem, hbad⟩, -⟩, -⟩ := preferences_eq_error_iff.1 hresult
      obtain ⟨c, hc⟩ := h key hmem
      exact absurd hc (hbad c)

/-- The command of a character is that of the last key for it. -/
theorem getElem?_preferences_eq {p : Preferences} (h : config.preferences = .ok p) (c : Char) :
    p.overrides[c]? = (config.overrides.toList.reverse.find? fun entry =>
      Preferences.keyed? entry.1 == some c).map Prod.snd := by
  rw [preferences_eq_foldlM] at h
  rw [getElem?_foldlM_addOverride h c, choices, Std.ExtTreeMap.getElem?_empty, Option.or_none]

/-- **The command of a character is that of the greatest key for it.** -/
theorem getElem?_preferences_eq_some_iff {p : Preferences} (h : config.preferences = .ok p)
    {c : Char} {command : String} :
    p.overrides[c]? = some command ↔
      ∃ key, IsGreatest (config.keysOf c) key ∧ config.overrides[key]? = some command := by
  have hgreatest : ∀ key, IsGreatest (config.keysOf c) key ↔
      ∃ entry, (config.overrides.toList.reverse.find? fun entry =>
        Preferences.keyed? entry.1 == some c) = some entry ∧ entry.1 = key := by
    intro key
    rw [keysOf_eq, ← find?_reverse_eq_some_iff_isGreatest (pairwise_lt_keys config.overrides),
      ← map_find?_reverse_toList, Option.map_eq_some_iff]
  -- What is found in the table is the entry of its key.
  have hentry : ∀ entry, (config.overrides.toList.reverse.find? fun entry =>
      Preferences.keyed? entry.1 == some c) = some entry →
        config.overrides[entry.1]? = some entry.2 := fun entry hfound =>
    Std.ExtTreeMap.mem_toList_iff_getElem?_eq_some.1
      (List.mem_reverse.1 (List.mem_of_find?_eq_some hfound))
  rw [getElem?_preferences_eq h, Option.map_eq_some_iff]
  constructor
  · rintro ⟨entry, hfound, rfl⟩
    exact ⟨entry.1, (hgreatest entry.1).2 ⟨entry, hfound, rfl⟩, hentry entry hfound⟩
  · rintro ⟨key, hkey, hcommand⟩
    obtain ⟨entry, hfound, rfl⟩ := (hgreatest key).1 hkey
    exact ⟨entry, hfound, Option.some.inj ((hentry entry hfound).symm.trans hcommand)⟩

/-- A character has a command of the user exactly if a key stands for it. -/
theorem mem_preferences_iff {p : Preferences} (h : config.preferences = .ok p) (c : Char) :
    c ∈ p.overrides ↔ (config.keysOf c).Nonempty := by
  rw [Std.ExtTreeMap.mem_iff_isSome_getElem?, getElem?_preferences_eq h, Option.isSome_map,
    List.find?_isSome]
  constructor
  · rintro ⟨entry, hentry, hkey⟩
    exact ⟨entry.1, mem_of_mem_toList (List.mem_reverse.1 hentry),
      Preferences.keyed_eq_ok_iff_keyed?.2 (beq_iff_eq.1 hkey)⟩
  · rintro ⟨key, hmem, hkey⟩
    obtain ⟨command, hcommand⟩ := Option.isSome_iff_exists.1
      (Std.ExtTreeMap.mem_iff_isSome_getElem?.1 hmem)
    refine ⟨(key, command),
      List.mem_reverse.2 (Std.ExtTreeMap.mem_toList_iff_getElem?_eq_some.2 hcommand), ?_⟩
    exact beq_iff_eq.2 (Preferences.keyed_eq_ok_iff_keyed?.1 hkey)

end Table

/-- **Overrides are taken all or not at all, in the order of texts.**  A table is taken exactly if
all of its keys stand for characters, and otherwise the fault names the least key that stands for
none.  In a table that is taken exactly the characters have a command that a key stands for, and the
command of a character is that of the greatest key for it. -/
theorem preferences_keys (config : SpellingConfig) :
    ((∃ p, config.preferences = .ok p) ↔
        ∀ key ∈ config.overrides, ∃ c, Preferences.keyed key = .ok c) ∧
      (∀ fault, config.preferences = .error fault ↔
        ∃ key, IsLeast config.badKeys key ∧ fault = .codepoint key) ∧
      ∀ p, config.preferences = .ok p →
        (∀ c, c ∈ p.overrides ↔ ∃ key ∈ config.overrides, Preferences.keyed key = .ok c) ∧
        ∀ c command, p.overrides[c]? = some command ↔
          ∃ key, IsGreatest (config.keysOf c) key ∧ config.overrides[key]? = some command := by
  refine ⟨exists_preferences_iff, fun fault => preferences_eq_error_iff, fun p hp => ⟨?_, ?_⟩⟩
  · exact mem_preferences_iff hp
  · intro c command
    exact getElem?_preferences_eq_some_iff hp

/-- Four ways to write one letter, each with a command of its own. -/
def acutes : SpellingConfig where
  overrides := .ofList [("U+00E9", "\\first"), ("é", "\\second"), ("u+e9", "\\third"),
    ("0xe9", "\\fourth")]

/-- Of four ways to write a letter the letter itself is the greatest. -/
theorem preferences_keys_acutes :
    ∃ p, acutes.preferences = .ok p ∧ p.overrides['é']? = some "\\second" := by
  have hkeys : acutes.overrides.keys = ["0xe9", "U+00E9", "u+e9", "é"] := by decide
  have hmem : ∀ key, key ∈ acutes.overrides ↔ key ∈ ["0xe9", "U+00E9", "u+e9", "é"] := by
    intro key
    rw [← hkeys, Std.ExtTreeMap.mem_keys]
  have hread : ∀ key ∈ acutes.overrides, Preferences.keyed key = .ok 'é' := by
    intro key hkey
    have hall : ∀ key ∈ ["0xe9", "U+00E9", "u+e9", "é"], Preferences.keyed? key = some 'é' := by
      decide
    exact Preferences.keyed_eq_ok_iff_keyed?.2 (hall key ((hmem key).1 hkey))
  obtain ⟨htaken, -, hcommands⟩ := preferences_keys acutes
  obtain ⟨p, hp⟩ := htaken.2 fun key hkey => ⟨'é', hread key hkey⟩
  have hletter : "é" ∈ acutes.overrides := (hmem "é").2 (by decide)
  have hgreatest : IsGreatest (acutes.keysOf 'é') "é" := by
    refine ⟨⟨hletter, hread "é" hletter⟩, fun key hkey => ?_⟩
    have hall : ∀ key ∈ ["0xe9", "U+00E9", "u+e9", "é"], key ≤ "é" := by decide
    exact hall key ((hmem key).1 hkey.1)
  exact ⟨p, hp, ((hcommands p hp).2 'é' "\\second").2 ⟨"é", hgreatest, by decide⟩⟩

end SpellingConfig

/-! ### The greatest key of a character -/

end TexGlyph
