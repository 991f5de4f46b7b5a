import TexGlyph.CommandLine.Argument
import TexGlyph.Latex.Accent

/-!
# Requests

A request is what the arguments of a command line ask for together.  They are taken in order, and
the first that cannot be taken, or that asks for the help text or the version, decides.  Only
`verbose` may be given more than once.
-/

namespace TexGlyph.CommandLine

/-- What a command line asks for. -/
structure Request where
  /-- The texts to convert. -/
  texts : List String := []
  /-- The options without a value. -/
  flags : List CommandOption := []
  /-- The values of the others. -/
  values : List (CommandOption × String) := []
deriving DecidableEq, Repr

/-- What a command line without a request asks for. -/
inductive Interruption where
  /-- To show how the program is used. -/
  | help
  /-- To show the version. -/
  | version
  /-- Something without a meaning. -/
  | misuse
deriving DecidableEq, Repr

namespace Request

/-- Whether an option without a value is given. -/
def has (r : Request) (o : CommandOption) : Bool := r.flags.contains o

/-- The value of an option. -/
def value? (r : Request) (o : CommandOption) : Option String := r.values.lookup o

/-- Whether an option can have the value. -/
def accepts (o : CommandOption) (value : String) : Bool :=
  match o with
  | .accentMode => (AccentMode.ofName? value).isSome
  | _ => true

/-- Takes an argument. -/
def add (r : Request) : Argument → Except Interruption Request
  | .text s => .ok { r with texts := r.texts ++ [s] }
  | .flag .help => .error .help
  | .flag .version => .error .version
  | .flag o =>
    if r.has o && o ≠ .verbose then .error .misuse else .ok { r with flags := o :: r.flags }
  | .setting o value =>
    if (r.value? o).isSome || !accepts o value then .error .misuse
    else .ok { r with values := (o, value) :: r.values }
  | .refused => .error .misuse

/-- The request of a command line. -/
def read (program : Program) (words : List String) : Except Interruption Request :=
  (Argument.read program words).foldlM add {}

/-- How often more reports are asked for. -/
def verbosity (r : Request) : Nat := r.flags.count .verbose

/-- The accent mode that is asked for. -/
def accentMode? (r : Request) : Option AccentMode :=
  (r.value? .accentMode).bind AccentMode.ofName?

end Request

end TexGlyph.CommandLine
