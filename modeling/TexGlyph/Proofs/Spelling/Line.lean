import Mathlib.Data.List.Forall2
import TexGlyph.CommandLine.Plan
import TexGlyph.Proofs.Spelling.Ascii
import TexGlyph.Proofs.Text.Lines

/-!
# Lines and positions

What is said about a character is given the place of this character (`notes_spellFrom`), however
deep in its decomposition it comes up and whatever becomes of the fragments.  So the log of a text
names for every remark the line and the column of the character that was being spelled
(`log_spellLines`).

A line feed is spelled as itself, without a remark, so it does not matter whether it is spelled with
its line or put behind the spelling of the line (`spellEach_eq_spellLines`).  The name of the input
is only a label (`spellEach_under`), so texts of a command line are spelled as a stream with a line
for each (`spell_texts`).
-/

namespace TexGlyph

/-! ### Positions -/

namespace Position

/-- The position before the `k`-th line that follows; that of the line itself is as it is. -/
def onLine (p : Position) : Nat → Position
  | 0 => p
  | k + 1 => { p with line := p.line + (k + 1), column := 0 }

theorem onLine_succ (p : Position) (k : Nat) : p.onLine (k + 1) = p.nextLine.onLine k := by
  cases k with
  | zero => rfl
  | succ k => simp only [onLine, nextLine]; congr 1; omega

/-- The place of the `i`-th character of a line: columns go on from the position on its own line,
and start anew on every other. -/
theorem advance_onLine (p : Position) (k i : Nat) :
    (p.onLine k).advance i = ⟨p.input, p.line + k, (if k = 0 then p.column else 0) + i⟩ := by
  cases k with
  | zero => rfl
  | succ k => simp only [onLine, advance, Nat.succ_ne_zero, if_false]

/-- The same place in an input of another name. -/
def under (p : Position) (name : String) : Position := { p with input := name }

end Position

/-- A remark on the same place in an input of another name. -/
def LocatedNote.under (n : LocatedNote) (name : String) : LocatedNote :=
  { n with position := n.position.under name }

/-- The same spelling of an input of another name. -/
def Passage.under (passage : Passage) (name : String) : Passage :=
  { passage with
    notes := passage.notes.map (·.under name)
    next := passage.next.under name }

/-- Whether two lines of a log differ by the names of the inputs in front at most. -/
def LogEntry.SameBut (name name' : String) (entry entry' : LogEntry) : Prop :=
  entry.severity = entry'.severity ∧
    ∃ rest, entry.text = "'" ++ name ++ "'" ++ rest ∧ entry'.text = "'" ++ name' ++ "'" ++ rest

theorem LocatedNote.sameBut_under (n : LocatedNote) (name : String) :
    LogEntry.SameBut name n.position.input (n.under name).entry n.entry := by
  refine ⟨rfl, ":" ++ toString n.position.line ++ ":" ++ toString n.position.column ++ ": " ++
    n.note.message, ?_, ?_⟩ <;>
  · simp only [entry, under, Position.under, Position.shown, String.append_assoc]
    rfl

namespace Speller

variable {s : Speller}

/-! ### What is said about a character -/

/-- What is said about a character after the characters before it on its line. -/
def remarks (s : Speller) (before : List Char) (c : Char) : List Note :=
  (Action.perform (s.actions c) (before.foldl s.push [])).2

/-- **Every remark has the place of the character that is being spelled.** -/
theorem notes_spellFrom (p : Position) (cs before : List Char) :
    (s.spellFrom p cs (before.foldl s.push [])).2 =
      cs.zipIdx.flatMap fun (c, i) =>
        (s.remarks (before ++ cs.take i) c).map (⟨p.advance (i + 1), ·⟩) := by
  induction cs generalizing p before with
  | nil => rfl
  | cons c cs ih =>
    have hpush : (Action.perform (s.actions c) (before.foldl s.push [])).1 =
        (before ++ [c]).foldl s.push [] := by
      rw [List.foldl_append]
      rfl
    -- The state after a character is the state of the text with the character before it.
    have hstep : (s.spellFrom p (c :: cs) (before.foldl s.push [])).2 =
        (s.remarks before c).map (⟨p.advance 1, ·⟩) ++
          (s.spellFrom (p.advance 1) cs ((before ++ [c]).foldl s.push [])).2 := by
      rw [← hpush]
      rfl
    rw [hstep, ih, List.zipIdx_cons, List.flatMap_cons, List.zipIdx_succ, List.flatMap_map]
    simp only [List.take_zero, List.append_nil, Nat.zero_add, Position.advance_advance,
      List.take_succ_cons, List.append_assoc, List.singleton_append, Nat.add_comm 1]

theorem notes_spell (p : Position) (text : String) :
    (s.spell p text).notes = text.toList.zipIdx.flatMap fun (c, i) =>
      (s.remarks (text.toList.take i) c).map (⟨p.advance (i + 1), ·⟩) :=
  notes_spellFrom p text.toList []

/-! ### Lines -/

theorem notes_spellEach (ending : String) (p : Position) (pieces : List String) :
    (s.spellEach ending p pieces).notes =
      pieces.zipIdx.flatMap fun (piece, k) => (s.spell (p.onLine k) piece).notes := by
  induction pieces generalizing p with
  | nil => rfl
  | cons piece pieces ih =>
    have hstep : (s.spellEach ending p (piece :: pieces)).notes =
        (s.spell p piece).notes ++ (s.spellEach ending p.nextLine pieces).notes := rfl
    rw [hstep, ih, List.zipIdx_cons, List.flatMap_cons, List.zipIdx_succ, List.flatMap_map]
    simp only [Position.onLine_succ]
    rfl

/-- Every piece takes up a line. -/
theorem next_spellEach (ending : String) (p : Position) (pieces : List String) :
    (s.spellEach ending p pieces).next = p.onLine pieces.length := by
  induction pieces generalizing p with
  | nil => rfl
  | cons piece pieces ih => exact (ih p.nextLine).trans (p.onLine_succ pieces.length).symm

/-- **The log of a text names the line and the column of every character it is about.**  The text is
cut into its lines, and what is said while the `i`-th character of the `k`-th line is spelled, both
counted from zero, begins with its place: columns are counted from one on every line, and on from
the start on the first.  Afterwards the position is at the start of the line after the last. -/
theorem log_spellLines (s : Speller) (p : Position) (text : String) :
    AreLines (linesWithEnds text.toList) text.toList ∧
      (s.spellLines p text).notes.map (·.entry) =
        (linesWithEnds text.toList).zipIdx.flatMap (fun (line, k) =>
          line.zipIdx.flatMap fun (c, i) => (s.remarks (line.take i) c).map fun n =>
            ⟨n.severity, "'" ++ p.input ++ "':" ++ toString (p.line + k) ++ ":" ++
              toString ((if k = 0 then p.column else 0) + (i + 1)) ++ ": " ++ n.message⟩) ∧
      (s.spellLines p text).next =
        if text = "" then p else ⟨p.input, p.line + (linesWithEnds text.toList).length, 0⟩ := by
  refine ⟨areLines_linesWithEnds text.toList, ?log, ?next⟩
  case log =>
    rw [spellLines, notes_spellEach, List.zipIdx_map, List.flatMap_map, List.map_flatMap]
    refine List.flatMap_congr fun ⟨line, k⟩ _ => ?_
    show (s.spell (p.onLine k) (String.ofList line)).notes.map (·.entry) = _
    rw [notes_spell, List.map_flatMap, String.toList_ofList]
    refine List.flatMap_congr fun ⟨c, i⟩ _ => ?_
    rw [List.map_map, Position.advance_onLine]
    rfl
  case next =>
    rw [spellLines, next_spellEach, List.length_map]
    by_cases hempty : text = ""
    · rw [if_pos hempty, hempty]
      rfl
    · -- A text that is not empty has a last line, so the count is a successor.
      have hlines : linesWithEnds text.toList ≠ [] := by
        intro hnil
        have hflatten := flatten_linesWithEnds text.toList
        rw [hnil] at hflatten
        exact hempty (String.toList_inj.1 hflatten.symm)
      obtain ⟨n, hn⟩ := Nat.exists_eq_succ_of_ne_zero (mt List.length_eq_zero_iff.1 hlines)
      rw [if_neg hempty, hn]
      rfl

/-! ### The name of the input -/

theorem notes_spell_under (p : Position) (name text : String) :
    (s.spell (p.under name) text).notes = (s.spell p text).notes.map (·.under name) := by
  rw [notes_spell, notes_spell, List.map_flatMap]
  refine List.flatMap_congr fun ⟨c, i⟩ _ => ?_
  rw [List.map_map]
  rfl

theorem text_spell_under (p : Position) (name text : String) :
    (s.spell (p.under name) text).text = (s.spell p text).text := by
  rw [text_spell, text_spell]

/-- The name of the input is only a label. -/
theorem spellEach_under (ending : String) (p : Position) (name : String) (pieces : List String) :
    s.spellEach ending (p.under name) pieces = (s.spellEach ending p pieces).under name := by
  induction pieces generalizing p with
  | nil => rfl
  | cons piece pieces ih =>
    have hrest : s.spellEach ending (p.under name).nextLine pieces =
        (s.spellEach ending p.nextLine pieces).under name := ih p.nextLine
    rw [spellEach, spellEach, hrest, text_spell_under, notes_spell_under]
    simp only [Passage.under, List.map_append]

theorem input_of_mem_notes_spellEach {ending : String} {p : Position} {pieces : List String}
    {n : LocatedNote} (h : n ∈ (s.spellEach ending p pieces).notes) :
    n.position.input = p.input := by
  have hself : s.spellEach ending p pieces = (s.spellEach ending p pieces).under p.input :=
    s.spellEach_under ending p p.input pieces
  rw [hself] at h
  obtain ⟨n', _, rfl⟩ := List.mem_map.1 h
  rfl

/-! ### Line feeds -/

/-- A line feed is spelled as itself, and nothing is said about it. -/
theorem spell_append_lineFeed (hkey : s.preferences.overrides['\n']? = none) (p : Position)
    (text : String) :
    (s.spell p (text ++ "\n")).text = (s.spell p text).text ++ "\n" ∧
      (s.spell p (text ++ "\n")).notes = (s.spell p text).notes := by
  have hforeign : isForeign '\n' = false := by decide
  constructor
  · exact s.text_spell_append_singleton (keeps_of_ascii hforeign hkey) p text
  · have hlast : ∀ q stack, (s.spellFrom q ['\n'] stack).2 = [] := by
      intro q stack
      rw [spellFrom, perform_of_ascii hforeign hkey]
      rfl
    show (s.spellFrom p (text ++ "\n").toList []).2 = (s.spellFrom p text.toList []).2
    rw [String.toList_append, spellFrom_append]
    exact (congrArg _ (hlast _ _)).trans (List.append_nil _)

/-- A line feed behind the spelling of each line is the same as one at the end of each line. -/
theorem spellEach_lineFeed (hkey : s.preferences.overrides['\n']? = none) (p : Position)
    (texts : List String) :
    s.spellEach "\n" p texts = s.spellEach "" p (texts.map (· ++ "\n")) := by
  induction texts generalizing p with
  | nil => rfl
  | cons text texts ih =>
    obtain ⟨htext, hnotes⟩ := spell_append_lineFeed hkey p text
    rw [List.map_cons, spellEach, spellEach, ih, htext, hnotes, String.append_empty]

/-- A stream with a line for each text. -/
def lineStream (texts : List String) : String := "\n".intercalate texts ++ "\n"

theorem toList_lineStream {texts : List String} (hne : texts ≠ []) :
    (lineStream texts).toList = (texts.map String.toList).flatMap (· ++ ['\n']) := by
  induction texts with
  | nil => exact absurd rfl hne
  | cons text texts ih =>
    by_cases hnil : texts = []
    · rw [hnil, lineStream, String.intercalate_singleton, String.toList_append]
      simp
    · rw [lineStream, String.intercalate_cons_of_ne_nil hnil, String.append_assoc,
        String.append_assoc, String.toList_append, String.toList_append, ← lineStream, ih hnil]
      simp

/-- **Texts are spelled as a stream with a line for each.** -/
theorem spellEach_eq_spellLines (hkey : s.preferences.overrides['\n']? = none)
    {texts : List String} (hne : texts ≠ []) (hlines : ∀ text ∈ texts, '\n' ∉ text.toList)
    (p : Position) : s.spellEach "\n" p texts = s.spellLines p (lineStream texts) := by
  have hends : linesWithEnds (lineStream texts).toList =
      (texts.map String.toList).map (· ++ ['\n']) := by
    rw [toList_lineStream hne]
    exact linesWithEnds_flatMap_lineFeed (List.forall_mem_map.2 hlines)
  have hpieces : ((texts.map String.toList).map (· ++ ['\n'])).map String.ofList =
      texts.map (· ++ "\n") := by
    rw [List.map_map, List.map_map]
    refine List.map_congr_left fun text _ => ?_
    show String.ofList (text.toList ++ ['\n']) = text ++ "\n"
    rw [String.ofList_append, String.ofList_toList]
  rw [spellLines, hends, hpieces, spellEach_lineFeed hkey]

/-- **Texts of a command line are spelled as a stream with a line for each.**  Neither the line feed
after a text nor the name of the input makes a difference: the spelling is the same, it ends on the
same line and column, and the log has the same lines but for the name in front. -/
theorem spell_texts (s : Speller) (hkey : s.preferences.overrides['\n']? = none)
    {texts : List String} (hne : texts ≠ []) (hlines : ∀ text ∈ texts, '\n' ∉ text.toList)
    (e : CommandLine.Environment) (encoding : InputEncoding) (name : String) :
    ∃ product, (CommandLine.Source.texts texts).spell e s encoding = .ok product ∧
      product.text = (s.spellLines { input := name } (lineStream texts)).text ∧
      List.Forall₂ (LogEntry.SameBut "cmdline" name) product.log
        ((s.spellLines { input := name } (lineStream texts)).notes.map (·.entry)) ∧
      (s.spellEach "\n" { input := "cmdline" } texts).next.line =
        (s.spellLines { input := name } (lineStream texts)).next.line ∧
      (s.spellEach "\n" { input := "cmdline" } texts).next.column =
        (s.spellLines { input := name } (lineStream texts)).next.column := by
  have hstream : s.spellEach "\n" { input := "cmdline" } texts =
      (s.spellLines { input := name } (lineStream texts)).under "cmdline" :=
    (spellEach_eq_spellLines hkey hne hlines _).trans
      (s.spellEach_under "" { input := name } "cmdline" _)
  refine ⟨_, rfl, ?text, ?log, ?line, ?column⟩
  case text =>
    show (s.spellEach "\n" { input := "cmdline" } texts).text = _
    rw [hstream]
    rfl
  case log =>
    show List.Forall₂ _ ((s.spellEach "\n" { input := "cmdline" } texts).notes.map (·.entry)) _
    -- Renaming the input changes the name in every entry and nothing else.
    rw [hstream, Passage.under, List.map_map, List.forall₂_map_left_iff, List.forall₂_map_right_iff,
      List.forall₂_same]
    intro n hn
    have hname : n.position.input = name := s.input_of_mem_notes_spellEach hn
    rw [← hname]
    exact n.sameBut_under "cmdline"
  case line => rw [hstream]; rfl
  case column => rw [hstream]; rfl

/-- A character that is left, an empty text, and a mark at the start of a line. -/
theorem spell_texts_dollared :
    dollared.preferences.overrides['\n']? = none ∧
      (∀ text ∈ ["$㎏", "", "\u0301$"], '\n' ∉ text.toList) ∧
      lineStream ["$㎏", "", "\u0301$"] = "$㎏\n\n\u0301$\n" ∧
      ∃ product, (CommandLine.Source.texts ["$㎏", "", "\u0301$"]).spell
          ⟨⟨.ofTree ⟨[]⟩, fun _ => none⟩, .ok []⟩ dollared .usual = .ok product ∧
        product.text = "$㎏\n\n\\\x27\x7b \x7d$\n" ∧
        List.Forall₂ (LogEntry.SameBut "cmdline" "stdin") product.log [
          ⟨.trace, "'stdin':1:2: decomposing '㎏' Unsupported(\"<square>\")"⟩,
          ⟨.warn, "'stdin':1:2: unsupported modifier '<square>' in '㎏'"⟩,
          ⟨.warn, "'stdin':3:1: accent '\\u\x7b301\x7d' with no preceding base"⟩] ∧
        (dollared.spellEach "\n" { input := "cmdline" } ["$㎏", "", "\u0301$"]).next =
          ⟨"cmdline", 4, 0⟩ := by
  have hkey : dollared.preferences.overrides['\n']? = none := Std.ExtTreeMap.getElem?_empty
  have hlines : ∀ text ∈ ["$㎏", "", "\u0301$"], '\n' ∉ text.toList := by decide
  have hstream : lineStream ["$㎏", "", "\u0301$"] = "$㎏\n\n\u0301$\n" := by decide
  obtain ⟨product, hproduct, htext, hlog, -, -⟩ := spell_texts dollared hkey
    (List.cons_ne_nil _ _) hlines ⟨⟨.ofTree ⟨[]⟩, fun _ => none⟩, .ok []⟩ .usual "stdin"
  rw [hstream] at htext hlog
  refine ⟨hkey, hlines, hstream, product, hproduct, htext.trans (by decide +kernel), ?_, rfl⟩
  have hnotes : (dollared.spellLines { input := "stdin" } "$㎏\n\n\u0301$\n").notes.map (·.entry) = [
      ⟨.trace, "'stdin':1:2: decomposing '㎏' Unsupported(\"<square>\")"⟩,
      ⟨.warn, "'stdin':1:2: unsupported modifier '<square>' in '㎏'"⟩,
      ⟨.warn, "'stdin':3:1: accent '\\u\x7b301\x7d' with no preceding base"⟩] := by
    decide +kernel
  rwa [hnotes] at hlog

end Speller

end TexGlyph
