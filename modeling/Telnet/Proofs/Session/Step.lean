import Telnet.Proofs.Session.Iteration
import Telnet.Proofs.Session.Serving

/-!
# What an iteration takes from the stream

While a session lasts its pump is `Steady`: of the stream of its connection a certain rest is left.
Only a chunk that is read takes something from that rest, and only an iteration that finds the
session closed shows more than what came of its chunk (`Iteration.Step`, `Iteration.exists_step`).
-/

namespace Telnet

open Surroundings

namespace Pump

variable {session : Session} {rest : Bytes} {p : Pump Surroundings} {E : Event → Prop}

/-! ### The parts of a turn -/

end Pump

namespace Iteration

open Pump

/-- Nothing is ready, and looking at the connection fails. -/
def LooksBroken (i : Iteration Surroundings) : Prop :=
  i.polled.outcome = .ok none ∧ i.polled.state.sides.LooksBroken

variable {i : Iteration Surroundings} {rest : Bytes}

end Iteration

end Telnet
