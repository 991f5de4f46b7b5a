import TexGlyph.Latex.Font
import TexGlyph.Latex.Greek
import TexGlyph.Latex.Ligature
import TexGlyph.Lexicon.Basic
import TexGlyph.Spelling.Fragments
import TexGlyph.Spelling.Preferences
import TexGlyph.Unicode.Block
import TexGlyph.Unicode.Decomposition.Rank
import TexGlyph.Unicode.Name.Table

/-!
# The spelling of a character

A speller follows a list of rules, and the first that applies decides:

1. the ASCII spelling of quotes and dashes, where it is asked for;
2. the user's own command;
3. the command of the lexicon, where formulas are preferred;
4. an accent command over the fragment before;
5. the decomposition, whose characters are spelled by the same rules;
6. the name, for a Greek letter;
7. the command of the lexicon;
8. the character itself.

Rules 1 to 4 are `direct?`, rule 5 is `decomposed`, and the others are `fallback`.  The recursion
along decompositions ends because every decomposition lowers `Decomposition.rank`.
-/

namespace TexGlyph

/-- Spells characters in LaTeX. -/
structure Speller where
  /-- The choices of the user. -/
  preferences : Preferences
  /-- The commands there are. -/
  lexicon : Lexicon

namespace Speller

/-- Whether the character lies outside ASCII. -/
def isForeign (c : Char) : Bool := 0x7F < c.toNat

/-- A command as a fragment: the blank ends the name of a control word. -/
def commandFragment (command : String) : String := command ++ " "

/-- A character as a fragment. -/
def charFragment (c : Char) : String := String.ofList [c]

variable (s : Speller)

/-- The ASCII spelling of a quote or a dash, where it is asked for. -/
def ligature? (c : Char) : Option String :=
  (if s.preferences.quotes then quoteSpellings.lookup c else none).or
    (if s.preferences.dashes then dashSpellings.lookup c else none)

/-- The command of the lexicon for a character outside ASCII. -/
def symbol? (c : Char) : Option String :=
  if isForeign c then s.lexicon.canonical? c else none

/-- The tag of a mark that becomes an accent command. -/
def mark? (c : Char) : Option Char :=
  if s.preferences.accents && isCombiningMark c then accentTag? c else none

/-- The rules that need no decomposition and come before it. -/
def direct? (c : Char) : Option (List Action) :=
  match s.ligature? c with
  | some spelling => some [.write spelling]
  | none =>
  match s.preferences.overrides[c]? with
  | some command => some [.note (.overridden c command), .write (commandFragment command)]
  | none =>
  match if s.preferences.preferMath then s.symbol? c else none with
  | some command => some [.note (.symbol c command), .write (commandFragment command)]
  | none =>
  match s.mark? c with
  | some tag => some [.accent c (s.preferences.accentMode.command tag)]
  | none => none

/-- The rules that come after the decomposition. -/
def fallback (c : Char) : List Action :=
  match (charName? c).filter fun name => "GREEK".toList.isPrefixOf name.toList with
  | some name => [.write (commandFragment ("\\" ++ greekCommand name))]
  | none =>
    if isForeign c then
      match s.lexicon.canonical? c with
      | some command => [.note (.symbol c command), .write (commandFragment command)]
      | none => [.note (.unconvertible c), .write (charFragment c)]
    else [.write (charFragment c)]

/-- The spelling of a character by its decomposition, given the spelling of every character of
the decomposition. -/
def decomposed (c : Char) :
    (d : Decomposition) → ((x : Char) → x ∈ d.scalars → List Action) → List Action
  | .fraction numerator denominator, spelled =>
    Action.enclosePair
      (numerator.attach.flatMap fun x =>
        spelled x.1 (by simp [Decomposition.scalars, x.2]))
      (denominator.attach.flatMap fun x =>
        spelled x.1 (by simp [Decomposition.scalars, x.2]))
      fun above below =>
        "\x7b\\sfrac\x7b" ++ above ++ "\x7d\x7b" ++ below ++ "\x7d\x7d"
  | .font base, spelled =>
    Action.enclose (spelled base (by simp [Decomposition.scalars])) fun text =>
      if s.preferences.fonts then wrapFont ((charName? c).getD "") text else text
  | .small base, spelled =>
    Action.enclose (spelled base (by simp [Decomposition.scalars])) fun text =>
      "\x7b" ++ applied "\\scriptsize" text ++ "\x7d"
  | .compat [], _ => .note (.unsupportedCompat c) :: s.fallback c
  | .compat (first :: rest), spelled =>
    if isGreekBlock first then
      Action.enclose (spelled first (by simp [Decomposition.scalars])) variantForm
    else if (charName? c).any (occursIn "LIGATURE") then
      (first :: rest).attach.flatMap fun x =>
        spelled x.1 (by simpa [Decomposition.scalars] using x.2)
    else .note (.unsupportedCompat c) :: s.fallback c
  | .script .super base, spelled =>
    Action.enclose (spelled base (by simp [Decomposition.scalars])) (applied "^")
  | .script .sub base, spelled =>
    Action.enclose (spelled base (by simp [Decomposition.scalars])) (applied "_")
  | .unsupported tag, _ => [.note (.unsupportedTag tag c), .write (charFragment c)]
  | .accented base mark, spelled =>
    match accentTag? mark with
    | none => .note (.unsupportedPair c) :: s.fallback c
    | some tag =>
      if s.preferences.accents then
        Action.enclose (spelled base (by simp [Decomposition.scalars]))
          (applied (s.preferences.accentMode.command tag))
      else [.write (charFragment c)]
  | .canonical scalars, spelled =>
    Action.enclose (scalars.attach.flatMap fun x =>
      spelled x.1 (by simp [Decomposition.scalars, x.2])) id

/-- The spelling of a character. -/
def actions (c : Char) : List Action :=
  match s.direct? c with
  | some actions => actions
  | none =>
    match h : Decomposition.of? c with
    | none => s.fallback c
    | some d =>
      .note (.decomposing c d) ::
        s.decomposed c d fun x hx =>
          have := Decomposition.rank_lt h hx
          actions x
termination_by Decomposition.rank c

end Speller

end TexGlyph
