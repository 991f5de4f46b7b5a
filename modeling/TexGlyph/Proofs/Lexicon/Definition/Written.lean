import TexGlyph.Proofs.Lexicon.Definition.Group
import TexGlyph.Proofs.Lexicon.Definition.Line
import TexGlyph.Proofs.Text.Hex
import TexGlyph.Proofs.Text.Lines

/-!
# Definition files as they are written

A symbol record can be written in many ways: with blanks in front of the keyword, around the groups
and inside them, with the code point in digits of either case and zeros in front, and with anything
after the last group (`RecordLine`).  All of them are read as the record
(`RecordLine.recordReading?_body_append`): the groups are told apart by their braces, trimming leaves
what was written into them, and the digits are those of the code point.

So a file of such lines, and of other lines between them, gives the records back in order, without
a report, exactly if none of the other lines is a record line (`Definitions.ofText_fileText_iff`).
-/

namespace TexGlyph

/-! ### Groups -/

/-- Blanks within a line. -/
structure Gap where
  /-- The blanks. -/
  chars : List Char
  /-- They are blanks. -/
  blank : ∀ c ∈ chars, isBlank c = true
  /-- They do not end the line. -/
  oneLine : '\n' ∉ chars

/-- Whether a text can be written into a group, with blanks around it, and found there. -/
structure IsField (cs : List Char) : Prop where
  /-- It does not begin with a blank. -/
  head? : ∀ c ∈ cs.head?, isBlank c = false
  /-- It does not end with a blank. -/
  getLast? : ∀ c ∈ cs.getLast?, isBlank c = false
  /-- Its braces are balanced. -/
  balanced : Balanced '\x7b' '\x7d' cs
  /-- It stands in one line. -/
  oneLine : '\n' ∉ cs

/-- The blanks around a group and inside it. -/
structure Spacing where
  /-- In front of the group. -/
  outside : Gap
  /-- After the opening brace. -/
  left : Gap
  /-- Before the closing brace. -/
  right : Gap

/-- What stands between the braces of a group. -/
def Spacing.inside (s : Spacing) (content : List Char) : List Char :=
  s.left.chars ++ content ++ s.right.chars

/-- A group with the blanks in front of it. -/
def Spacing.group (s : Spacing) (content : List Char) : List Char :=
  s.outside.chars ++ '\x7b' :: (s.inside content ++ ['\x7d'])

/-- A group ends with its closing brace. -/
theorem Spacing.getLast?_group (s : Spacing) (content : List Char) :
    (s.group content).getLast? = some '\x7d' := by
  rw [group, ← List.cons_append, ← List.append_assoc, List.getLast?_concat]

/-- Blanks are no braces. -/
theorem Gap.balanced (gap : Gap) : Balanced '\x7b' '\x7d' gap.chars :=
  .of_not_mem (fun h => absurd (gap.blank _ h) (by decide))
    (fun h => absurd (gap.blank _ h) (by decide))

namespace IsField

variable {content : List Char}

theorem trim_inside (h : IsField content) (s : Spacing) : trim (s.inside content) = content :=
  trim_padded s.left.blank s.right.blank h.head? h.getLast?

theorem balanced_inside (h : IsField content) (s : Spacing) :
    Balanced '\x7b' '\x7d' (s.inside content) :=
  (s.left.balanced.append h.balanced).append s.right.balanced

theorem oneLine_group (h : IsField content) (s : Spacing) : '\n' ∉ s.group content := by
  simp [Spacing.group, Spacing.inside, s.outside.oneLine, s.left.oneLine, h.oneLine,
    s.right.oneLine]

end IsField

/-- Groups are read one after the other, whatever comes after the last one. -/
theorem bracedFields?_groups {groups : List (Spacing × List Char)}
    (h : ∀ group ∈ groups, IsField group.2) (rest : List Char) :
    bracedFields? groups.length (groups.flatMap (fun group => group.1.group group.2) ++ rest) =
      some (groups.map fun group => group.1.inside group.2) := by
  induction groups with
  | nil => rfl
  | cons group groups ih =>
    obtain ⟨hgroup, hgroups⟩ := List.forall_mem_cons.1 h
    have hread := bracedFields?_group group.1.outside.blank (hgroup.balanced_inside group.1)
      groups.length (groups.flatMap (fun group => group.1.group group.2) ++ rest)
    simp only [List.flatMap_cons, Spacing.group, List.append_assoc, List.cons_append,
      List.nil_append, List.length_cons, List.map_cons] at hread ih ⊢
    rw [hread, ih hgroups]
    rfl

/-! ### Records -/

/-- Whether a record can be written into a line. -/
structure SymbolRecord.IsWritable (r : SymbolRecord) : Prop where
  /-- It has a command. -/
  command_ne : r.command ≠ ""
  /-- The command can be written into a group. -/
  command : IsField r.command.toList
  /-- The class can be written into a group. -/
  category : IsField r.category.toList
  /-- The description can be written into a group. -/
  info : IsField r.info.toList

/-- A line that a record is written into. -/
structure RecordLine where
  /-- The record. -/
  record : SymbolRecord
  /-- It can be written into a line. -/
  isWritable : record.IsWritable
  /-- The blanks in front of the keyword. -/
  indent : Gap
  /-- The blanks around the groups and inside them. -/
  spacing : Fin 4 → Spacing
  /-- Whether a double quote stands before the code point. -/
  quoted : Bool
  /-- The code point. -/
  digits : List Char
  /-- The digits are those of the code point. -/
  isNumeral : Hex.IsNumeral record.codepoint.toNat digits
  /-- What comes after the last group. -/
  trailing : List Char
  /-- It ends with the line. -/
  oneLine : '\n' ∉ trailing

namespace RecordLine

/-- What is written into the first group. -/
def code (line : RecordLine) : List Char :=
  (if line.quoted then ['\x22'] else []) ++ line.digits

/-- What is written into the groups. -/
def groups (line : RecordLine) : List (Spacing × List Char) :=
  [(line.spacing 0, line.code), (line.spacing 1, line.record.command.toList),
    (line.spacing 2, line.record.category.toList), (line.spacing 3, line.record.info.toList)]

/-- The line up to the end of its last group. -/
def body (line : RecordLine) : List Char :=
  line.indent.chars ++ SymbolRecord.keyword.toList ++
    line.groups.flatMap fun group => group.1.group group.2

/-- The line. -/
def text (line : RecordLine) : List Char := line.body ++ line.trailing

/-- The first group has a quote and digits, and nothing else. -/
theorem isBlank_eq_false_of_mem_code {line : RecordLine} {c : Char} (hc : c ∈ line.code) :
    isBlank c = false := by
  rcases List.mem_append.1 hc with hquote | hdigit
  · have heq : c = '\x22' := by
      split at hquote
      · exact List.mem_singleton.1 hquote
      · cases hquote
    rw [heq]
    rfl
  · exact Hex.isBlank_eq_false_of_digitValue?
      (Hex.isSome_digitValue?_of_mem line.isNumeral.digits?_eq hdigit)

theorem not_mem_code (line : RecordLine) {c : Char} (hquote : c ≠ '\x22')
    (hdigit : Hex.digitValue? c = none) : c ∉ line.code := by
  refine fun hc => (List.mem_append.1 hc).elim (fun h => ?_) (line.isNumeral.not_mem hdigit)
  split at h
  · exact hquote (List.mem_singleton.1 h)
  · cases h

theorem isField_code (line : RecordLine) : IsField line.code where
  head? _ hc := isBlank_eq_false_of_mem_code (List.mem_of_mem_head? hc)
  getLast? _ hc := isBlank_eq_false_of_mem_code (List.mem_of_mem_getLast? hc)
  balanced := .of_not_mem (line.not_mem_code (by decide) rfl) (line.not_mem_code (by decide) rfl)
  oneLine := line.not_mem_code (by decide) rfl

theorem isField_of_mem_groups (line : RecordLine) {group : Spacing × List Char}
    (h : group ∈ line.groups) : IsField group.2 := by
  simp only [groups, List.mem_cons, List.not_mem_nil, or_false] at h
  rcases h with rfl | rfl | rfl | rfl
  · exact line.isField_code
  · exact line.isWritable.command
  · exact line.isWritable.category
  · exact line.isWritable.info

/-- The quote is no digit. -/
theorem dropWhile_code (line : RecordLine) :
    line.code.dropWhile (· = '\x22') = line.digits := by
  have hdigits : line.digits.dropWhile (· = '\x22') = line.digits := by
    cases hcs : line.digits with
    | nil => rfl
    | cons c cs =>
      have hne : c ≠ '\x22' := by
        rintro rfl
        exact line.isNumeral.not_mem rfl (hcs ▸ List.mem_cons_self)
      exact List.dropWhile_cons_of_neg (by simpa using hne)
  rw [code]
  split
  · exact hdigits
  · exact hdigits

/-- What is read from the groups is the record. -/
theorem ofFields?_groups (line : RecordLine) :
    SymbolRecord.ofFields? (line.groups.map fun group => group.1.inside group.2) =
      some line.record := by
  have hcommand : line.record.command.toList ≠ [] := fun h =>
    line.isWritable.command_ne (String.toList_eq_nil_iff.1 h)
  simp only [groups, List.map_cons, List.map_nil, SymbolRecord.ofFields?,
    line.isField_code.trim_inside, line.isWritable.command.trim_inside,
    line.isWritable.category.trim_inside, line.isWritable.info.trim_inside, dropWhile_code,
    line.isNumeral.scalar?_eq, if_neg hcommand, String.ofList_toList]

/-- A line that a record is written into is read as the record, whatever comes after the groups. -/
theorem recordReading?_body_append (line : RecordLine) (rest : List Char) :
    recordReading? (line.body ++ rest) = some (some line.record) := by
  have hfields := bracedFields?_groups (fun _ => line.isField_of_mem_groups) rest
  generalize hgroups : line.groups.flatMap (fun group => group.1.group group.2) = written at hfields
  -- The indent goes, and the keyword is what the rest begins with.
  have hstart : trimStart (line.body ++ rest) = SymbolRecord.keyword.toList ++ (written ++ rest) := by
    rw [body, hgroups, List.append_assoc, List.append_assoc]
    refine trimStart_append_of_blank line.indent.blank fun c hc => ?_
    rw [← Option.some.inj hc]
    rfl
  have hkeyword : SymbolRecord.afterKeyword? (line.body ++ rest) = some (written ++ rest) := by
    rw [SymbolRecord.afterKeyword?, hstart]
    simp only [List.drop_left]
    exact if_pos (List.isPrefixOf_iff_prefix.2 (List.prefix_append _ _))
  rw [recordReading?, hkeyword, Option.map_some, SymbolRecord.read?]
  show some ((bracedFields? line.groups.length _).bind _) = _
  rw [hfields, Option.bind_some, ofFields?_groups]

theorem getLast?_body (line : RecordLine) : line.body.getLast? = some '\x7d' := by
  simp only [body, groups, List.flatMap_cons, List.flatMap_nil, List.append_nil,
    List.getLast?_append, Spacing.getLast?_group, Option.some_or]

/-- A `CR` at the end of the line belongs to what comes after the groups. -/
theorem recordReading?_withoutBreak (line : RecordLine) :
    recordReading? (withoutBreak (line.text ++ ['\n'])) = some (some line.record) := by
  rcases withoutBreak_append_lineFeed line.text with heq | heq
  · rw [heq]
    exact line.recordReading?_body_append line.trailing
  · rcases List.eq_nil_or_concat' line.trailing with hnil | ⟨front, c, hconcat⟩
    · -- The line ends with the brace of its last group.
      rw [text, hnil, List.append_nil] at heq
      have hlast := line.getLast?_body
      rw [heq, List.getLast?_concat] at hlast
      exact absurd (Option.some.inj hlast) (by decide)
    · rw [text, hconcat, ← List.append_assoc] at heq
      obtain ⟨hbody, -⟩ := List.append_inj' heq rfl
      rw [text, hconcat, ← List.append_assoc, ← hbody]
      exact line.recordReading?_body_append front

theorem isRecordLine_text (line : RecordLine) : IsRecordLine line.text := by
  by_contra hnone
  have hread := line.recordReading?_body_append line.trailing
  rw [← text, recordReading?_eq_none_iff.2 hnone] at hread
  cases hread

theorem not_mem_text (line : RecordLine) : '\n' ∉ line.text := by
  have hgroups : '\n' ∉ line.groups.flatMap fun group => group.1.group group.2 := by
    intro hmem
    obtain ⟨group, hgroup, hin⟩ := List.mem_flatMap.1 hmem
    exact (line.isField_of_mem_groups hgroup).oneLine_group group.1 hin
  have hkeyword : '\n' ∉ SymbolRecord.keyword.toList := by decide
  simp only [text, body, List.mem_append, not_or]
  exact ⟨⟨⟨line.indent.oneLine, hkeyword⟩, hgroups⟩, line.oneLine⟩

end RecordLine

/-! ### Files -/

/-- A line of a definition file. -/
inductive FileLine where
  /-- A record is written into it. -/
  | record (line : RecordLine)
  /-- Any other line. -/
  | other (line : {cs : List Char // '\n' ∉ cs})

namespace FileLine

/-- The line. -/
def text : FileLine → List Char
  | record line => line.text
  | other line => line.1

/-- The record that is written into it. -/
def record? : FileLine → Option SymbolRecord
  | record line => some line.record
  | other _ => none

theorem not_mem_text (line : FileLine) : '\n' ∉ line.text := by
  cases line with
  | record line => exact line.not_mem_text
  | other line => exact line.2

end FileLine

/-- The text of a file, with line feeds between its lines.  The last line is empty if the text is to
end with a line feed, and the other lines end with `CR` if it is to have `CR LF` between them. -/
def fileText (file : List FileLine) : String :=
  String.ofList (['\n'].intercalate (file.map FileLine.text))

/-- A file has as many record lines as are put into it. -/
theorem countP_isRecordLine_fileText (file : List FileLine) :
    (lines (fileText file).toList).countP (IsRecordLine ·) = file.countP (IsRecordLine ·.text) := by
  rw [fileText, String.toList_ofList, countP_lines_intercalate rfl, List.countP_map]
  · rfl
  · exact List.forall_mem_map.2 fun line _ => line.not_mem_text
  · exact fun line _ => decide_eq_decide.2 isRecordLine_withoutBreak_iff

/-- If no other line is a record line, what is read from the lines is what is written into them. -/
theorem filterMap_recordReading?_fileText {file : List FileLine}
    (h : ∀ line, .other line ∈ file → ¬ IsRecordLine line.1) :
    (lines (fileText file).toList).filterMap recordReading? =
      (file.filterMap FileLine.record?).map some := by
  have hreading : ∀ line ∈ file, recordReading? line.text = line.record?.map some := by
    intro line hline
    cases line with
    | record line => exact line.recordReading?_body_append line.trailing
    | other line => exact recordReading?_eq_none_iff.2 (h line hline)
  have hbreak : ∀ line ∈ file,
      recordReading? (withoutBreak (line.text ++ ['\n'])) = recordReading? line.text := by
    intro line hline
    rw [hreading line hline]
    cases line with
    | record line => exact line.recordReading?_withoutBreak
    | other line =>
      exact recordReading?_eq_none_iff.2 (mt isRecordLine_withoutBreak_iff.1 (h line hline))
  rw [fileText, String.toList_ofList, filterMap_lines_intercalate rfl, List.filterMap_map,
    List.map_filterMap]
  · exact List.filterMap_congr hreading
  · exact List.forall_mem_map.2 fun line _ => line.not_mem_text
  · exact List.forall_mem_map.2 hbreak

namespace Definitions

/-- **Definition files are read as they are written.**  A file into whose lines records are written,
with other lines between them, gives back the records in order and has nothing to report, exactly if
none of the other lines is a record line. -/
theorem ofText_fileText_iff (name : String) (file : List FileLine) :
    ((ofText name (fileText file)).records = file.filterMap FileLine.record? ∧
        (ofText name (fileText file)).malformed = []) ↔
      ∀ line, .other line ∈ file → ¬ IsRecordLine line.1 := by
  constructor
  · rintro ⟨hrecords, hmalformed⟩ line hline hrecord
    -- There are no more record lines than records, and a record is written into each of those.
    have hcount := length_records_add_length_malformed name (fileText file)
    rw [hrecords, hmalformed, List.length_nil, Nat.add_zero, countP_isRecordLine_fileText,
      List.length_filterMap_eq_countP, List.countP_eq_length_filter,
      List.countP_eq_length_filter] at hcount
    have hsublist : (file.filter (·.record?.isSome)).Sublist (file.filter (IsRecordLine ·.text)) := by
      refine List.monotone_filter_right file fun line hsome => ?_
      cases line with
      | record line => exact decide_eq_true line.isRecordLine_text
      | other line => cases hsome
    have hmem : FileLine.other line ∈ file.filter (IsRecordLine ·.text) :=
      List.mem_filter.2 ⟨hline, decide_eq_true hrecord⟩
    rw [← hsublist.eq_of_length hcount] at hmem
    cases (List.mem_filter.1 hmem).2
  · intro hother
    rw [records_ofText, malformed_ofText_eq_nil_iff, filterMap_recordReading?_fileText hother]
    constructor
    · rw [List.reduceOption, List.filterMap_map]
      exact List.filterMap_some
    · intro hmem
      obtain ⟨r, -, hr⟩ := List.mem_map.1 hmem
      cases hr

end Definitions

/-- A record with blanks in front and inside its groups, a zero in front of its code point, and a
group in its description. -/
def parallelLine : RecordLine where
  record := ⟨'∥', "\\parallel", "\\mathrel", "as \x7bAB\x7d"⟩
  isWritable := {
    command_ne := by decide
    command := {
      head? := by rintro c ⟨⟩; rfl
      getLast? := by rintro c ⟨⟩; rfl
      balanced := .of_not_mem (by decide) (by decide)
      oneLine := by decide }
    category := {
      head? := by rintro c ⟨⟩; rfl
      getLast? := by rintro c ⟨⟩; rfl
      balanced := .of_not_mem (by decide) (by decide)
      oneLine := by decide }
    info := {
      head? := by rintro c ⟨⟩; rfl
      getLast? := by rintro c ⟨⟩; rfl
      balanced := .append (a := ['a', 's', ' ']) (.of_not_mem (by decide) (by decide))
        (.enclosed (l := ['A', 'B']) (by decide) (.of_not_mem (by decide) (by decide)))
      oneLine := by decide } }
  indent := ⟨['\t'], List.all_eq_true.1 (by decide), by decide⟩
  spacing _ := ⟨⟨[], List.forall_mem_nil _, List.not_mem_nil⟩,
    ⟨[], List.forall_mem_nil _, List.not_mem_nil⟩,
    ⟨[' '], List.all_eq_true.1 (by decide), by decide⟩⟩
  quoted := true
  digits := "02225".toList
  isNumeral := ⟨1, by decide⟩
  trailing := ['%', '\r']
  oneLine := by decide

/-- The record after a comment, with a `CR` at the ends of the lines. -/
def parallelFile : List FileLine :=
  [.other ⟨['%', '\r'], by decide⟩, .record parallelLine, .other ⟨[], List.not_mem_nil⟩]

/-- The text of the file, and what is read from it. -/
theorem Definitions.ofText_fileText_iff_parallel :
    fileText parallelFile = "%\r\n\t\\UnicodeMathSymbol\x7b\x2202225 \x7d\x7b\\parallel \x7d" ++
        "\x7b\\mathrel \x7d\x7bas \x7bAB\x7d \x7d%\r\n" ∧
      (ofText "table" (fileText parallelFile)).records =
        [⟨'∥', "\\parallel", "\\mathrel", "as \x7bAB\x7d"⟩] ∧
      (ofText "table" (fileText parallelFile)).malformed = [] := by
  refine ⟨by decide +kernel, (ofText_fileText_iff "table" parallelFile).2 ?_⟩
  intro line hline
  simp only [parallelFile, List.mem_cons, List.not_mem_nil, or_false, FileLine.other.injEq,
    reduceCtorEq, false_or] at hline
  rcases hline with rfl | rfl
  · decide
  · decide

end TexGlyph
