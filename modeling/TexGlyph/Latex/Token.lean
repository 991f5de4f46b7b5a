/-!
# Tokens of LaTeX source

Only as much of the language is read as replacing control sequences needs: control sequences,
comments, braces, active characters, and runs of everything else.  Nothing is expanded, trimmed
or dropped, so the sources of the tokens make up the text again (`flatMap_source_scan`).
-/

namespace TexGlyph

/-- What a single character means to the reader of a source. -/
inductive Category where
  /-- The backslash. -/
  | escape
  /-- The percent sign. -/
  | comment
  /-- The opening brace. -/
  | beginGroup
  /-- The closing brace. -/
  | endGroup
  /-- A character that acts like a command. -/
  | active
  /-- An ASCII letter. -/
  | letter
  /-- Any other character. -/
  | other
deriving DecidableEq, Repr

namespace Category

/-- Whether the character is an ASCII letter, as in the name of a control word. -/
def isLetter (c : Char) : Bool := c.isAlpha

/-- The category of a character. -/
def of (c : Char) : Category :=
  if c = '\\' then escape
  else if c = '%' then comment
  else if c = '\x7b' then beginGroup
  else if c = '\x7d' then endGroup
  else if c = '$' ∨ c = '&' ∨ c = '~' then active
  else if isLetter c then letter
  else other

theorem eq_of_of_eq_escape {c : Char} (h : of c = escape) : c = '\\' := by
  grind [of]

theorem eq_of_of_eq_comment {c : Char} (h : of c = comment) : c = '%' := by
  grind [of]

theorem eq_of_of_eq_beginGroup {c : Char} (h : of c = beginGroup) : c = '\x7b' := by
  grind [of]

theorem eq_of_of_eq_endGroup {c : Char} (h : of c = endGroup) : c = '\x7d' := by
  grind [of]

/-- Whether the character belongs to a run of plain text. -/
def isText (c : Char) : Bool :=
  match of c with
  | letter => true
  | other => true
  | _ => false

/-- Whether the character ends a comment. -/
def isLineBreak (c : Char) : Bool := c = '\n' || c = '\r'

end Category

/-- A unit of source text. -/
inductive Token where
  /-- A backslash and a name: letters, one other character, or nothing at the end of the text. -/
  | control (name : String)
  /-- A percent sign and the rest of its line. -/
  | comment (text : String)
  /-- The opening brace. -/
  | beginGroup
  /-- The closing brace. -/
  | endGroup
  /-- An active character. -/
  | active (c : Char)
  /-- A maximal run of plain characters. -/
  | text (run : String)
deriving DecidableEq, Repr

namespace Token

/-- The text a token was read from. -/
def source : Token → List Char
  | control name => '\\' :: name.toList
  | comment words => '%' :: words.toList
  | beginGroup => ['\x7b']
  | endGroup => ['\x7d']
  | active c => [c]
  | text run => run.toList

/-- What an active character is called where control sequences have names. -/
def activeName (c : Char) : String := "active::" ++ String.ofList [c]

/-- The key under which a token is looked up for replacement: a control sequence with its
backslash, an active character with a backslash and its name. -/
def key? : Token → Option String
  | control name => some ("\\" ++ name)
  | active c => some ("\\" ++ activeName c)
  | _ => none

/-- Reads a text as tokens, each as long as it can be. -/
def scan : List Char → List Token
  | [] => []
  | c :: cs =>
    match Category.of c with
    | .escape =>
      match cs with
      | [] => [control ""]
      | d :: ds =>
        if Category.isLetter d then
          control (String.ofList (d :: ds.takeWhile Category.isLetter)) ::
            scan (ds.dropWhile Category.isLetter)
        else control (String.ofList [d]) :: scan ds
    | .comment =>
      comment (String.ofList (cs.takeWhile (!Category.isLineBreak ·))) ::
        scan (cs.dropWhile (!Category.isLineBreak ·))
    | .beginGroup => beginGroup :: scan cs
    | .endGroup => endGroup :: scan cs
    | .active => active c :: scan cs
    | _ =>
      text (String.ofList (c :: cs.takeWhile Category.isText)) ::
        scan (cs.dropWhile Category.isText)
termination_by cs => cs.length
decreasing_by
  all_goals
    simp only [List.length_cons]
    first
      | omega
      | exact Nat.lt_succ_of_le (Nat.le_succ_of_le (List.dropWhile_sublist _).length_le)
      | exact Nat.lt_succ_of_le (List.dropWhile_sublist _).length_le

/-- Nothing is lost: the sources of the tokens make up the text. -/
theorem flatMap_source_scan (cs : List Char) : (scan cs).flatMap source = cs := by
  fun_induction scan cs with
  | case1 => rfl
  | case2 c hc => simp [source, Category.eq_of_of_eq_escape hc]
  | case3 c hc d ds hd ih =>
    simp [source, ih, Category.eq_of_of_eq_escape hc]
  | case4 c hc d ds hd ih =>
    simp [source, ih, Category.eq_of_of_eq_escape hc]
  | case5 c cs hc ih =>
    simp [source, ih, Category.eq_of_of_eq_comment hc]
  | case6 c cs hc ih => simp [source, ih, Category.eq_of_of_eq_beginGroup hc]
  | case7 c cs hc ih => simp [source, ih, Category.eq_of_of_eq_endGroup hc]
  | case8 c cs hc ih => simp [source, ih]
  | case9 c cs _ _ _ _ _ ih => simp [source, ih]

end Token

end TexGlyph
