import Telnet.Act
import Telnet.Event

/-!
# Tasks

A block of code may start tasks that go on beside it, and it is left when all of them are over. The
tasks are run by a library. What the client uses of it is a receiver for the interrupts of the user
and the way in which a block is left; everything else about it is left open.
-/

namespace Telnet

/-- The code of a task that sets something up, and then takes a step each time that what it waits for
has come. It does not end by itself. -/
structure Routine (ω : Type) where
  opening : Except Failure Unit
  step : Act Effect ω Unit

inductive TaskEnding where
  | cancelled
  | failed (f : Failure)
  deriving DecidableEq, Repr

namespace TaskEnding

def failure? : TaskEnding → Option Failure
  | .cancelled => none
  | .failed f => some f

end TaskEnding

/-- The tasks that a block has started. -/
structure TaskGroup (ω : Type) where
  tasks : List (Routine ω)
  isCancelled : Bool

/-- A library that runs tasks. -/
structure TaskLibrary (ω : Type) where
  /-- How it goes to set up a receiver for the interrupts of the user. -/
  receiver : Except Failure Unit
  /-- Waits until the tasks of a block are over whose body has ended, with a failure or without. The
  result is how the tasks ended, and the failure with which the block is left. -/
  leave : TaskGroup ω → Option Failure → Act Effect ω (List TaskEnding × Option Failure)

namespace TaskLibrary

variable {ω : Type}

/-- A library whose tasks are over as soon as they are cancelled, so that only the body of a block
can fail. -/
def prompt : TaskLibrary ω where
  receiver := .ok ()
  leave group failure :=
    if group.isCancelled || failure.isSome || group.tasks.isEmpty then
      return (group.tasks.map fun _ => .cancelled, failure.map fun f => .group [f])
    else throw .stalled

end TaskLibrary

end Telnet
