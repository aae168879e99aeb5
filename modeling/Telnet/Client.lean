import Telnet.Endpoint
import Telnet.Resolution
import Telnet.Session.Pump
import Telnet.Session.Surroundings
import Telnet.Tasks

/-!
# The client

From the text of a target to a finished session: the target is read, its host is resolved, and a
pump is conducted in a block with a task that routes the interrupts of the user. An error of the
client leaves as it is, wherever it arises: inside the block it is kept until that is left. Any
other failure of the pump leaves the block as the library of tasks has it.
-/

namespace Telnet

structure Call where
  /-- A host, and a port behind a colon. -/
  target : String
  limit : Limit
  /-- The terminal type, or why there is none. -/
  term : Except Failure TerminalType
  resolver : Resolver
  polls : List Poll
  /-- Whether interrupts of the user are routed to the console during the session. -/
  routesInterrupts : Bool

/-! ### A session in a block -/

/-- A block that holds a session. -/
structure Holding (ω : Type) where
  group : TaskGroup ω
  endings : List TaskEnding
  /-- The error of the client that is raised once the block is left. -/
  kept : Option ClientError
  stage : Stage
  pump : Pump ω

namespace Holding

variable {ω : Type}

def start (pump : Pump ω) : Holding ω := ⟨⟨[], false⟩, [], none, .outside, pump⟩

def startTask (task : Routine ω) : Act Event (Holding ω) Unit :=
  modify fun h => { h with group := { h.group with tasks := h.group.tasks ++ [task] } }

def cancel : Act Event (Holding ω) Unit :=
  modify fun h => { h with group := { h.group with isCancelled := true } }

def keep (c : ClientError) : Act Event (Holding ω) Unit := modify fun h => { h with kept := some c }

def onScope {α : Type} (x : Act Event (Stage × Pump ω) α) : Act Event (Holding ω) α :=
  .on (fun h => (h.stage, h.pump)) (fun h s => { h with stage := s.1, pump := s.2 }) x

/-- Leaves the block whose body has ended, with a failure or without. -/
def leave (lib : TaskLibrary ω) (failure : Option Failure) : Act Event (Holding ω) Unit := do
  let group := (← get).group
  let (endings, left) ← onScope (Scope.within (Pump.onSides (lib.leave group failure)))
  modify fun h => { h with endings := endings }
  match left with
  | some f => throw f
  | none => pure ()

variable [Sides ω]

def routing (lib : TaskLibrary ω) : Routine ω := ⟨lib.receiver, Sides.interrupt⟩

/-- The body of the block. Whatever becomes of the session, the tasks are cancelled. -/
def body (lib : TaskLibrary ω) (routes : Bool) : Act Event (Holding ω) Unit := do
  if routes then startTask (routing lib)
  match ← Act.attempt (onScope Pump.conduct) with
  | .ok () => cancel
  | .error (.client c) => do
    keep c
    cancel
  | .error f => do
    cancel
    throw f

def failure? : Except Failure Unit → Option Failure
  | .ok () => none
  | .error f => some f

/-- What follows behind the block: the error that was kept, or the session. -/
def conclude : Act Event (Holding ω) Session := do
  let h ← get
  match h.kept with
  | some c => throw (.client c)
  | none => return h.pump.session

/-- Holds a session: enters the block and leaves it, and raises the error that was kept. -/
def hold (lib : TaskLibrary ω) (routes : Bool) : Act Event (Holding ω) Session := do
  let ended ← Act.attempt (body lib routes)
  leave lib (failure? ended)
  conclude

end Holding

namespace Call

/-- An action that has effects alone, in the trace of a session. -/
def effects {σ α : Type} (x : Act Effect σ α) : Act Event σ α := x.mapEvents Event.effect

variable {ω : Type} [Sides ω]

/-- Holds a session over some sides, and notes how the tasks of its block ended. -/
def holdOver (lib : TaskLibrary ω) (routes : Bool) (pump : ω → Pump ω) :
    Act Event (List TaskEnding × ω) Session := fun s =>
  let ran := (Holding.hold lib routes).run (.start (pump s.2))
  ⟨ran.outcome, (ran.state.endings, ran.state.pump.sides), ran.events⟩

def onSides {α : Type} (x : Act Event ω α) : Act Event (List TaskEnding × ω) α :=
  .on Prod.snd (fun s t => (s.1, t)) x

/-- Answers a call, with the tasks of a library: the finished session. -/
def runIn (lib : TaskLibrary ω) (call : Call) : Act Event (List TaskEnding × ω) Session := do
  let endpoint ← .ofExcept (Endpoint.ofText call.target)
  let address ← onSides (effects
    (Resolution.resolve Log.clientLogger call.resolver endpoint.host))
  onSides (effects (.emit (.debug Log.clientLogger .connecting
    [.words "Connecting to ", .plain endpoint.datum, .words " (", .plain address.datum,
      .words ")"])))
  let term ← .ofExcept call.term
  holdOver lib call.routesInterrupts
    (.start Log.clientLogger call.limit term address endpoint.port call.polls)

/-- Answers a call, with tasks that are over as soon as they are cancelled. -/
def run (call : Call) : Act Event ω Session := fun s =>
  let ran := (call.runIn .prompt).run ([], s)
  ⟨ran.outcome, ran.state.2, ran.events⟩

/-- Answers a call with the console entered before and left after it, whatever the outcome. -/
def runInConsole (call : Call) : Act Event Surroundings Session := do
  effects (Surroundings.onConsole Console.enter)
  let outcome ← Act.attempt call.run
  effects (Surroundings.onConsole Console.leave)
  .ofExcept outcome

end Call

end Telnet
