import TexGlyph.CommandLine.Option

/-!
# Reading a command line

A word of a command line is an option if it starts with a hyphen and is not a hyphen alone.  An
option by its name has its value after an equals sign or in the next word; options by their letter
can be put together, and the rest of the word is the value of the first that has one.  What stands
after a word of two hyphens is text.

Reading never fails: what has no meaning becomes a `refused` argument.
-/

namespace TexGlyph.CommandLine

/-- What a part of a command line means. -/
inductive Argument where
  /-- A text to convert. -/
  | text (s : String)
  /-- An option without a value. -/
  | flag (o : CommandOption)
  /-- An option with its value. -/
  | setting (o : CommandOption) (value : String)
  /-- A part without a meaning. -/
  | refused
deriving DecidableEq, Repr

namespace Argument

/-- The form of a word. -/
inductive Form where
  /-- No option. -/
  | plain
  /-- The end of the options. -/
  | terminator
  /-- An option by its name, and a value after an equals sign. -/
  | named (name : String) (value : Option String)
  /-- Options by their letters. -/
  | lettered (letters : List Char)
deriving DecidableEq, Repr

/-- The form of a word. -/
def form (word : String) : Form :=
  match word.toList with
  | ['-', '-'] => .terminator
  | '-' :: '-' :: cs =>
    let name := cs.takeWhile (· ≠ '=')
    let value := match cs.dropWhile (· ≠ '=') with
      | [] => none
      | _ :: value => some (String.ofList value)
    .named (String.ofList name) value
  | '-' :: c :: cs => .lettered (c :: cs)
  | _ => .plain

/-- The arguments in a word, and the option whose value has to follow. -/
structure Reading where
  /-- The arguments. -/
  arguments : List Argument
  /-- The option that is still without its value. -/
  pending : Option CommandOption := none
deriving DecidableEq, Repr

variable (program : Program)

/-- Reads an option by its name. -/
def readNamed (name : String) (value : Option String) : Reading :=
  match CommandOption.ofName? program name, value with
  | none, _ => ⟨[refused], none⟩
  | some o, some value => ⟨[if o.takesValue then setting o value else refused], none⟩
  | some o, none => if o.takesValue then ⟨[], some o⟩ else ⟨[flag o], none⟩

/-- Reads the value of an option from the rest of its word, where an equals sign may come
first. -/
def readAttached (o : CommandOption) : List Char → Reading
  | [] => ⟨[], some o⟩
  | '=' :: value => ⟨[setting o (String.ofList value)], none⟩
  | value => ⟨[setting o (String.ofList value)], none⟩

/-- Reads options by their letters. -/
def readLettered : List Char → Reading
  | [] => ⟨[], none⟩
  | c :: cs =>
    match CommandOption.ofLetter? program c with
    | none => ⟨[refused], none⟩
    | some o =>
      if o.takesValue then readAttached o cs
      else
        let rest := readLettered cs
        ⟨flag o :: rest.arguments, rest.pending⟩

/-- Reads words, where `pending` is the option whose value comes first. -/
def readFrom (pending : Option CommandOption) : List String → List Argument
  | [] =>
    match pending with
    | none => []
    | some _ => [refused]
  | word :: words =>
    match pending, form word with
    | some o, .plain => setting o word :: readFrom none words
    | some _, _ => [refused]
    | none, .plain => text word :: readFrom none words
    | none, .terminator => words.map text
    | none, .named name value =>
      let r := readNamed program name value
      r.arguments ++ readFrom r.pending words
    | none, .lettered letters =>
      let r := readLettered program letters
      r.arguments ++ readFrom r.pending words

/-- Reads the words of a command line. -/
def read (words : List String) : List Argument := readFrom program none words

end Argument

end TexGlyph.CommandLine
