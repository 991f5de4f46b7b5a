/-!
# Accent commands

A combining mark above or below a letter is an accent command in LaTeX: a backslash and the tag
of the mark, or in formulas a control word where there is one.  The tables are sorted by key.
-/

namespace TexGlyph

/-- The marks that have an accent command in text, with the character after the backslash. -/
def accentTags : List (Char × Char) :=
  [('\u0300', '\x60'), ('\u0301', '\x27'), ('\u0302', '^'), ('\u0303', '~'), ('\u0304', '='),
    ('\u0306', 'u'), ('\u0307', '.'), ('\u0308', '\x22'), ('\u030A', 'r'), ('\u030B', 'H'),
    ('\u030C', 'v'), ('\u0323', 'd'), ('\u0327', 'c'), ('\u0328', 'k'), ('\u0331', 'b')]

/-- The control words that formulas have for some of the tags. -/
def mathAccents : List (Char × String) :=
  [('\x22', "ddot"), ('\x27', "acute"), ('.', "dot"), ('=', "bar"), ('^', "hat"),
    ('\x60', "grave"), ('u', "breve"), ('v', "check"), ('~', "tilde")]

/-- The tag of a mark, if it has an accent command. -/
def accentTag? (mark : Char) : Option Char := accentTags.lookup mark

/-- Which accent commands are written. -/
inductive AccentMode where
  /-- Those of running text. -/
  | text
  /-- Those of formulas where there is one, and those of text elsewhere. -/
  | math
  /-- The same as `text`; kept for a choice by context. -/
  | auto
deriving DecidableEq, Repr

namespace AccentMode

/-- The name of a mode in options. -/
def name : AccentMode → String
  | text => "text"
  | math => "math"
  | auto => "auto"

/-- The mode of that name, which has to be in lower case. -/
def ofName? (name : String) : Option AccentMode :=
  [text, math, auto].find? (·.name = name)

/-- The command for an accent tag. -/
def command (mode : AccentMode) (tag : Char) : String :=
  match mode with
  | math => "\\" ++ (mathAccents.lookup tag).getD (String.ofList [tag])
  | _ => "\\" ++ String.ofList [tag]

end AccentMode

/-- A command with one argument. -/
def applied (command argument : String) : String := command ++ "\x7b" ++ argument ++ "\x7d"

end TexGlyph
