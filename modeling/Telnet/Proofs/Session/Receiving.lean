import Telnet.Proofs.Negotiation.Stream
import Telnet.Proofs.Session.Lifecycle
import Telnet.Proofs.Session.Step

/-!
# What a session receives

The chunks that a session hands to its engine are cut from the stream of its connection, in order
and without a gap. The user is shown what comes of them and then why the session ended: because the
user wanted that, or because the remote host closed the connection, and that is said only when all
of the stream was handed to the engine, or when looking at the connection failed.
-/

namespace Telnet

open Surroundings

namespace Pump

open Iteration

/-- The chunks that some iterations handed to the engine. -/
def chunks (its : List (Iteration Surroundings)) : List Bytes := its.filterMap Iteration.chunk?

def shown (its : List (Iteration Surroundings)) : List Bytes :=
  (its.filterMap Iteration.fed?).map Fed.display

/-- How the loop ends if `rest` is left of the stream: because the user wants that, or because the
session was found closed. -/
def Ends (its : List (Iteration Surroundings)) (rest : Bytes)
    (r : Ran Event (Pump Surroundings) Unit) : Prop :=
  r.state.session.state = .active ∧ r.state.sides.console.isCancelled = true ∧
      displays r.events = shown its ∨
    r.state.session.state = .closing ∧ displays r.events = shown its ++ [closedByHost] ∧
      (rest = [] ∨ ∃ i, its.getLast? = some i ∧ i.LooksBroken)

variable {its : List (Iteration Surroundings)} {i : Iteration Surroundings} {engine : Engine}
  {rest rest' rest₁ : Bytes}

end Pump

end Telnet
