/-!
# Log entries

What a program run reports besides its result.  The parts of the library describe what happened
by types of their own; each of them is written down as a `LogEntry` in one place.
-/

namespace TexGlyph

/-- How much a report matters, the most severe first. -/
inductive Severity where
  /-- Something could not be done as asked. -/
  | warn
  /-- A fact about the run as a whole. -/
  | info
  /-- A decision about a single item. -/
  | debug
  /-- A step on the way to a decision. -/
  | trace
deriving DecidableEq, Repr

namespace Severity

/-- The name under which a severity is shown. -/
def name : Severity → String
  | warn => "WARN"
  | info => "INFO"
  | debug => "DEBUG"
  | trace => "TRACE"

/-- The place in the order, zero for the most severe. -/
def rank : Severity → Nat
  | warn => 0
  | info => 1
  | debug => 2
  | trace => 3

/-- Whether a log kept at the severity `least` has room for a report of severity `s`. -/
def shows (least s : Severity) : Bool := s.rank ≤ least.rank

end Severity

/-- One line of a log. -/
structure LogEntry where
  /-- How much it matters. -/
  severity : Severity
  /-- What it says. -/
  text : String
deriving DecidableEq, Repr

end TexGlyph
