/-!
# Options of the command lines

There are two programs: one spells characters in LaTeX, the other replaces control sequences by
characters.  They share most options.
-/

namespace TexGlyph.CommandLine

/-- The programs. -/
inductive Program where
  /-- Spells characters in LaTeX. -/
  | toLatex
  /-- Replaces control sequences by characters. -/
  | toUnicode
deriving DecidableEq, Repr

namespace Program

/-- The name of a program. -/
def name : Program → String
  | toLatex => "unicode2latex"
  | toUnicode => "latex2unicode"

/-- What a program does, in a line. -/
def purpose : Program → String
  | toLatex => "Convert Unicode text to LaTeX commands"
  | toUnicode => "Replace LaTeX macros by Unicode characters"

end Program

/-- The version of the programs. -/
def version : String := "0.1.0"

/-- What can be asked for on a command line. -/
inductive CommandOption where
  /-- The file to convert. -/
  | input
  /-- Convert standard input. -/
  | stdin
  /-- The file to write. -/
  | output
  /-- The encoding of what is read. -/
  | inputEncoding
  /-- A file of settings. -/
  | config
  /-- Show the lexicon instead of converting. -/
  | dumpTables
  /-- Report more. -/
  | verbose
  /-- Show how the program is used. -/
  | help
  /-- Show the version of the program. -/
  | version
  /-- Put the command of a formula before a decomposition. -/
  | preferMath
  /-- Leave out font commands. -/
  | noFonts
  /-- Leave marks as they are. -/
  | noAccents
  /-- Which accent commands are written. -/
  | accentMode
  /-- Give quotes their ASCII spelling. -/
  | quotes
  /-- Give dashes their ASCII spelling. -/
  | dashes
  /-- Replace the commands of symbols. -/
  | math
  /-- Replace the commands of Greek letters. -/
  | greek
deriving DecidableEq, Repr

namespace CommandOption

/-- The letter of an option, if it has one. -/
def letter? : CommandOption → Option Char
  | input => some 'i'
  | output => some 'o'
  | verbose => some 'v'
  | help => some 'h'
  | version => some 'V'
  | preferMath => some 'P'
  | math => some 'M'
  | greek => some 'G'
  | _ => none

/-- The names of an option. -/
def names : CommandOption → List String
  | input => ["input"]
  | stdin => ["stdin"]
  | output => ["output"]
  | inputEncoding => ["input-encoding", "input-enc"]
  | config => ["config"]
  | dumpTables => ["dump-tables"]
  | verbose => ["verbose"]
  | help => ["help"]
  | version => ["version"]
  | preferMath => ["prefer-unicode-math"]
  | noFonts => ["no-fonts"]
  | noAccents => ["no-accents"]
  | accentMode => ["accent-mode"]
  | quotes => ["convert-quotes"]
  | dashes => ["convert-dashes"]
  | math => ["math"]
  | greek => ["greek"]

/-- Whether an option has a value. -/
def takesValue : CommandOption → Bool
  | input | output | inputEncoding | config | accentMode => true
  | _ => false

/-- What an option is for, in a line. -/
def purpose : CommandOption → String
  | input => "Read the text to convert from a file"
  | stdin => "Read the text to convert from standard input"
  | output => "Write the result to a file ('-' for standard output)"
  | inputEncoding =>
    "Encoding of file or stdin input, or AUTO to detect a byte-order mark [default: utf-8]"
  | config => "Path to a u2l.toml configuration file"
  | dumpTables => "Print the symbol tables as JSON and exit"
  | verbose => "Log more details to stderr (repeat for more)"
  | help => "Print help"
  | version => "Print version"
  | preferMath => "Prefer unicode-math commands over text-mode forms"
  | noFonts => "Drop font styles instead of emitting \\symbf and friends"
  | noAccents => "Leave combining accents unconverted"
  | accentMode => "Which accent commands to emit [possible values: text, math, auto]"
  | quotes => "Convert typographic quotes to \x60\x60 and ''"
  | dashes => "Convert en and em dashes to -- and ---"
  | math => "Replace unicode-math symbol macros"
  | greek => "Replace Greek letter macros"

/-- The options of a program. -/
def all : Program → List CommandOption
  | .toLatex => [input, stdin, output, inputEncoding, config, dumpTables, verbose,
      preferMath, noFonts, noAccents, accentMode, quotes, dashes, help, version]
  | .toUnicode => [input, stdin, output, inputEncoding, config, dumpTables, verbose, math,
      greek, help, version]

/-- The option of a program with the given letter. -/
def ofLetter? (program : Program) (letter : Char) : Option CommandOption :=
  (all program).find? (·.letter? = some letter)

/-- The option of a program with the given name, which is not abbreviated. -/
def ofName? (program : Program) (name : String) : Option CommandOption :=
  (all program).find? (·.names.contains name)

/-- The line of the help text for an option. -/
def usageLine (o : CommandOption) : String :=
  let letter := match o.letter? with
    | some c => "  -" ++ String.ofList [c] ++ ", "
    | none => "      "
  letter ++ "--" ++ (o.names.headD "") ++ (if o.takesValue then " <VALUE>" else "") ++ "\n" ++
    "          " ++ o.purpose ++ "\n"

end CommandOption

/-- How a program is used. -/
def Program.usage (program : Program) : String :=
  program.purpose ++ "\n\nUsage: " ++ program.name ++ " [OPTIONS] [text]...\n\nOptions:\n" ++
    String.join ((CommandOption.all program).map (·.usageLine))

end TexGlyph.CommandLine
