import TexGlyph.CommandLine.Demand
import TexGlyph.CommandLine.Run

/-!
# The programs

Reads the files that a request looks at, makes the plan and carries it out.  The program is chosen
by the name under which it is called.
-/

namespace TexGlyph.Main

open CommandLine

/-- The fault behind an error of the system. -/
def faultOf : IO.Error → FileFault
  | .inappropriateType _ code _ => if code = 20 then .notDirectory else .isDirectory
  | .invalidArgument _ code _ => if code = 36 then .nameTooLong else .notFound
  | .permissionDenied _ code details | .resourceExhausted _ code details
  | .resourceVanished code details | .hardwareFault code details =>
    .other (details ++ " (os error " ++ toString code ++ ")")
  | _ => .notFound

/-- Reads a file. -/
def readPath (path : String) : IO (String × Except FileFault (List UInt8)) := do
  try return (path, .ok (← IO.FS.readBinFile path).toList)
  catch e => return (path, .error (faultOf e))

/-- The files that have been read; what lies in the directory of devices is no file. -/
def filesOf (known : List (String × Except FileFault (List UInt8))) : Files where
  read := fun path => (known.lookup path).getD (.error .notFound)
  isFile := fun path =>
    match known.lookup path with
    | some (.ok _) => !"/dev/".toList.isPrefixOf path.toList
    | _ => false

/-- Reads all of a stream. -/
partial def readAll (stream : IO.FS.Stream) (read : ByteArray) : IO ByteArray := do
  let more ← stream.read 65536
  if more.isEmpty then return read else readAll stream (read ++ more)

/-- Reads standard input. -/
def readInput : IO (Except FileFault (List UInt8)) := do
  try return .ok (← readAll (← IO.getStdin) .empty).toList
  catch e => return .error (faultOf e)

/-- What a request can see. -/
def environmentOf (r : Request) : IO Environment := do
  let first ← r.firstPaths.mapM readPath
  let later ← match Configuration.load (filesOf first) r.layers with
    | .ok config => (Request.definitionPaths config).mapM readPath
    | .error _ => pure []
  let input ← if r.has .stdin then readInput else pure (.ok [])
  return ⟨⟨filesOf (first ++ later), fun _ => none⟩, input⟩

/-- The least report that is shown. -/
def leastSeverity (r : Request) : Severity :=
  match r.verbosity with
  | 0 => .warn
  | 1 => .info
  | 2 => .debug
  | _ => .trace

/-- Shows a text, and says why it cannot be shown. -/
def display (text : String) : IO (Option FileFault) := do
  try
    IO.print text
    (← IO.getStdout).flush
    return none
  catch e => return some (faultOf e)

/-- Says why a run fails. -/
def fail (program : Program) (fault : RunFault) : IO UInt32 := do
  let _ ← display (fault.shown program)
  IO.eprintln fault.message
  return 1

/-- Carries out a plan. -/
def perform (program : Program) (r : Request) (plan : Plan) : IO UInt32 := do
  for entry in plan.product.log do
    if (leastSeverity r).shows entry.severity then
      IO.eprintln (entry.severity.name ++ " " ++ entry.text)
  match plan.target with
  | none =>
    match ← display plan.product.text with
    | none => return 0
    | some cause => fail program (.writingOutput cause)
  | some path =>
    try
      IO.FS.writeFile path plan.product.text
      return 0
    catch e => fail program (.writing path (faultOf e))

/-- Runs a program. -/
def runProgram (program : Program) (words : List String) : IO UInt32 := do
  match Request.read program words with
  | .error .help =>
    let _ ← display program.usage
    return 0
  | .error .version =>
    let _ ← display (program.name ++ " " ++ version ++ "\n")
    return 0
  | .error .misuse =>
    IO.eprint program.usage
    return 2
  | .ok r =>
    match r.plan program (← environmentOf r) with
    | .ok plan => perform program r plan
    | .error fault => fail program fault

end TexGlyph.Main

/-- Runs the program under whose name it is called. -/
def main (words : List String) : IO UInt32 := do
  let called := (← IO.appPath).fileName.getD ""
  let program : TexGlyph.CommandLine.Program :=
    if called.startsWith "latex2unicode" then .toUnicode else .toLatex
  TexGlyph.Main.runProgram program words
