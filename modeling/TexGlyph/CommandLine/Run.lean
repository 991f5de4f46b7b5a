import TexGlyph.CommandLine.Plan
import TexGlyph.Files.Display
import TexGlyph.Files.System

/-!
# Runs

A run of a program on a system of files: it reads its command line, makes a plan and carries it
out.  A run that fails leaves the files as they were.  Standard output is a display, which may fail
in the middle of a text; only where the text is the result does the run fail with it.
-/

namespace TexGlyph.CommandLine

/-- How a run ends. -/
structure Outcome (σ : Type := FileTree) where
  /-- Zero for success, one for a request that cannot be served, and two for misuse. -/
  status : Nat
  /-- What standard output has taken. -/
  written : List UInt8
  /-- The complaint of a run that fails. -/
  complaint : Option String := none
  /-- The reports of a plan that was carried out. -/
  log : List LogEntry := []
  /-- The files afterwards. -/
  tree : σ
deriving DecidableEq, Repr

/-- What a failing run shows: how the program is used, if there is no single source. -/
def RunFault.shown (program : Program) : RunFault → String
  | source => program.usage
  | _ => ""

variable {σ : Type}

namespace Outcome

/-- What standard output has taken, as a text. -/
def shown (o : Outcome σ) : String := Piece.text (Utf8.decode o.written)

variable (display : Display)

/-- The end of a run that fails.  It does not matter whether the help text is taken. -/
def failed (program : Program) (tree : σ) (fault : RunFault) (log : List LogEntry := []) :
    Outcome σ where
  status := 1
  written := (display.take (Utf8.encode (fault.shown program))).1
  complaint := some fault.message
  log := log
  tree := tree

/-- The end of a run without a request. -/
def interrupted (program : Program) (tree : σ) : Interruption → Outcome σ
  | .help => { status := 0, written := (display.take (Utf8.encode program.usage)).1, tree }
  | .version =>
    let shown := program.name ++ " " ++ version ++ "\n"
    { status := 0, written := (display.take (Utf8.encode shown)).1, tree }
  | .misuse => { status := 2, written := [], complaint := some program.usage, tree }

end Outcome

variable (system : FileSystem σ) (display : Display)

/-- Carries out a plan. -/
def Plan.perform (program : Program) (tree : σ) (plan : Plan) : Outcome σ :=
  let bytes := Utf8.encode plan.product.text
  let log := plan.product.log
  match plan.target with
  | none =>
    match display.take bytes with
    | (written, none) => { status := 0, written, log, tree }
    | (written, some cause) =>
      { status := 1, written, complaint := some (RunFault.writingOutput cause).message, log, tree }
  | some path =>
    match system.write tree path bytes with
    | .ok tree => { status := 0, written := [], log, tree }
    | .error cause => .failed display program tree (.writing path cause) log

/-- Runs a program on a system of files. -/
def runOn (program : Program) (words : List String) (input : Except FileFault (List UInt8))
    (finder : String → Option String) (tree : σ) : Outcome σ :=
  match Request.read program words with
  | .error interruption => .interrupted display program tree interruption
  | .ok request =>
    match request.plan program ⟨⟨system.files tree, finder⟩, input⟩ with
    | .error fault => .failed display program tree fault
    | .ok plan => plan.perform system display program tree

/-- Runs a program on the files below a directory; whatever it shows is taken. -/
def run (program : Program) (words : List String) (input : List UInt8) (tree : FileTree)
    (finder : String → Option String := fun _ => none) : Outcome :=
  runOn FileTree.system .unlimited program words (.ok input) finder tree

end TexGlyph.CommandLine
