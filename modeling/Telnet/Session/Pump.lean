import Telnet.Scope
import Telnet.Session.Basic
import Telnet.Limit
import Telnet.Session.Sides

/-!
# The pump

The pump connects a session, moves lines out and chunks in until the user or the remote host ends
the session, and releases the connection whatever happened in between. In each turn it waits for one
of the two sides to be ready and makes one transfer; if neither is ready it sleeps for a moment and
looks whether the remote host is still there.

How the waiting goes is scripted: one poll a turn, and when the script is used up the user
interrupts.
-/

namespace Telnet

inductive Side where
  | console
  | remote
  deriving DecidableEq, Repr

/-- How one poll goes: the user may interrupt the session meanwhile, and then one side is ready, or
none, or the poll fails. -/
structure Poll where
  interrupts : Bool
  ready : Except Failure (Option Side)

/-- The poll that takes place when the script is used up. -/
def Poll.interrupting : Poll := ⟨true, .ok none⟩

/-- How long one poll may take. -/
def pollInterval : Decimal.Binary64 := .ofRatio false 1 10

/-- How long the pump sleeps when nothing is ready. -/
def idleInterval : Decimal.Binary64 := .ofRatio false 1 100

/-- What the user is told when the remote host has closed the connection. -/
def closedByHost : Bytes :=
  "Connection closed by foreign host.\n".toList.map fun c => UInt8.ofNat c.toNat

structure Pump (ω : Type) where
  logger : String
  limit : Limit
  session : Session
  polls : List Poll
  sides : ω

namespace Pump

variable {ω : Type}

/-! ### Parts -/

def start (logger : String) (limit : Limit) (term : TerminalType) (address : Address) (port : Int)
    (polls : List Poll) (sides : ω) : Pump ω :=
  ⟨logger, limit, .start address port term, polls, sides⟩

def note (site : Log.Site) (message : Log.Message) : Act Event (Pump ω) Unit := do
  .emit (.effect (.debug (← get).logger site message))

def become (next : SessionState) : Act Event (Pump ω) Unit := do
  let state := (← get).session.state
  note .stateChange
    [.words "session ", .plain (.text state.name), .words " -> ", .plain (.text next.name)]
  modify fun p => { p with session := p.session.become next }

def onSides {α : Type} (x : Act Effect ω α) : Act Event (Pump ω) α :=
  .on Pump.sides (fun p s => { p with sides := s }) (x.mapEvents Event.effect)

/-- Makes a request of one of the sides, which leaves an event before anything is done about it. -/
def ask {α : Type} (request : Request) (answer : Act Effect ω α) : Act Event (Pump ω) α := do
  .emit (.asked request)
  onSides answer

def setHandle (present : Bool) : Act Event (Pump ω) Unit :=
  modify fun p => { p with session := { p.session with hasHandle := present } }

variable [Sides ω]

def display (bytes : Bytes) : Act Event (Pump ω) Unit := ask (.display bytes) (Sides.display bytes)

def write (bytes : Bytes) : Act Event (Pump ω) Unit := ask (.write bytes) (Sides.write bytes)

/-! ### Entering and releasing -/

/-- Releases the connection; nothing happens the second time. -/
def release : Act Event (Pump ω) Unit := do
  if (← get).session.state = .active then become .closing
  if (← get).session.hasHandle then
    setHandle false
    ask .close Sides.close
  if (← get).session.state ≠ .closed then become .closed

/-- The failure that is reported for a failure to connect. -/
def reported (limit : Limit) (address : Address) (port : Int) : Failure → Failure
  | .stalled =>
    if limit.isReached then
      .client (.connection (.text address.text) (.number port) (.text "timed out"))
    else .stalled
  | .system e =>
    .client (.connection (.text address.text) (.number port)
      (if e.kind = .timedOut then .text "timed out" else e.reason))
  | f => f

/-- Opens a connection and connects it. If that fails the connection is released. -/
def connect : Act Event (Pump ω) Unit := do
  let p ← get
  let address := p.session.address
  let port := p.session.port
  ask (.openFor address.family) (Sides.openFor address.family)
  setHandle true
  let attempt : Act Event (Pump ω) Unit := do
    .ofExcept p.limit.check
    ask (.connect address port) (Sides.connect address port)
  match ← attempt.attempt with
  | .ok () => do
    note .connected [.words "Connected to ", .plain address.datum, .words ":", .number port]
    become .active
  | .error f => do
    release
    throw (reported p.limit address port f)

/-- The scope of a pump: inside it the session is connected. -/
def scope : Scope Event (Pump ω) Unit where
  begin_ := connect
  conclude _ := return false
  release := some release
  isShielded := true

/-! ### Turns -/

/-- Ends the session if the remote host has closed the connection. -/
def checkAlive : Act Event (Pump ω) Unit := do
  match ← ask .status Sides.status with
  | some s =>
    if s.isClosed then
      note .closedByHost [.words "connection closed by peer"]
      display closedByHost
      become .closing
  | none => pure ()

/-- Does what the engine noted: logs it, or switches the local echo. -/
def perform (n : Note) : Act Event (Pump ω) Unit :=
  match n, n.entry? with
  | .echo enabled, _ => ask (.echo enabled) (Sides.setEcho enabled)
  | _, some (site, message) => note site message
  | _, none => pure ()

/-- Reads a chunk: the engine answers what it can, the rest is shown. -/
def receive (chunk : Bytes) : Act Event (Pump ω) Unit := do
  let fed := (← get).session.engine.feed chunk
  modify fun p => { p with session := { p.session with engine := fed.engine } }
  fed.notes.forM perform
  display fed.display
  if !fed.response.isEmpty then write fed.response

def transferLine : Act Event (Pump ω) Unit := do
  let line ← ask .readLine Sides.readLine
  if !line.isEmpty then write line.networkEnds

/-- Moves a chunk from the remote host to the console. An empty chunk may mean that the connection
is closed. -/
def transferChunk : Act Event (Pump ω) Unit := do
  let limit := Sides.chunk (← get).sides
  match ← ask (.read limit) (Sides.read limit) with
  | none => pure ()
  | some chunk => if chunk.isEmpty then checkAlive else receive chunk

/-- One turn: a poll and what follows from it. -/
def turn (poll : Poll) : Act Event (Pump ω) Unit := do
  .emit (.effect (.poll pollInterval))
  if poll.interrupts then ask .interrupt Sides.interrupt
  match ← .ofExcept poll.ready with
  | some .console => transferLine
  | some .remote => transferChunk
  | none => do
    onSides (Sides.sleep idleInterval)
    checkAlive

/-- Ends the session because the user wants that. -/
def cancel : Act Event (Pump ω) Unit := do
  display [Bytes.lineFeed]
  become .closing

/-- Goes on unless the session is over; if the user wants to end it, it ends. -/
def unlessOver (next : Act Event (Pump ω) Unit) : Act Event (Pump ω) Unit := do
  let p ← get
  if p.session.isConnected then
    if Sides.isCancelled p.sides then cancel else next

/-- Takes a turn for each poll until the session is over. After the last one the user interrupts. -/
def turns : List Poll → Act Event (Pump ω) Unit
  | [] => unlessOver do
    turn .interrupting
    if (← get).session.isConnected then cancel
  | poll :: rest => unlessOver do
    modify fun p => { p with polls := rest }
    turn poll
    turns rest

/-- Runs the session until either side ends it. -/
def run : Act Event (Pump ω) Unit := do turns (← get).polls

/-! ### The whole session -/

/-- Enters the scope of a pump, runs it and leaves the scope, whatever the outcome. -/
def conduct : Act Event (Stage × Pump ω) Unit := do
  scope.enter
  match ← Act.attempt (Scope.within run) with
  | .ok () => discard (scope.leave none)
  | .error f => do
    if !(← scope.leave (some f)) then throw f

end Pump

end Telnet
