import Telnet.Connection.Socket
import Telnet.Connection.Status

/-!
# Connections

A connection never waits for data: a read returns what is there. A write waits until everything is
accepted. Failures while reading, writing and asking for the status are logged and otherwise taken
for silence, so that a connection which went away is noticed by its status alone.
-/

namespace Telnet

/-- The error numbers which say that an attempt to connect goes on. -/
def inProgress : List Int := [115, 11]

/-- The largest chunk that is read at once, unless another one is chosen. -/
def standardChunk : Nat := 1500

def socketNumber : Nat := 7

/-- A connection over a socket. -/
structure Link where
  chunk : Nat
  isOpen : Bool
  connected : Bool
  /-- The end of the stream was seen. -/
  ended : Bool
  socket : Socket
  deriving DecidableEq, Repr

namespace Link

def fresh (chunk : Nat) (socket : Socket) : Link := ⟨chunk, true, false, false, socket⟩

/-- Logs a failure of the system that is otherwise taken for silence. -/
def note (site : Log.Site) (words : String) (e : SystemError) : Act Effect Link Unit :=
  .emit (.debug Log.connectionLogger site [.words words, .quoted e.datum])

def onSocket {α : Type} (x : Act Effect Socket α) : Act Effect Link α :=
  .on Link.socket (fun link socket => { link with socket := socket }) x

/-- Opens a connection over a socket. A refusal by the system means that there is no device. -/
def openOver {σ : Type} (socket : Socket) (family : Family) (chunk : Nat) : Act Effect σ Link := do
  .emit (.created family)
  match socket.openFailure with
  | none => do
    .emit .unblocked
    return .fresh chunk socket
  | some (.system e) => throw (.client (.device [e.reason]))
  | some f => throw f

def connect (address : Address) (port : Int) : Act Effect Link Unit := do
  let link ← get
  if !link.isOpen then throw .absentPart
  .emit (.connecting address.text port)
  let started := link.socket.connectResult
  let error ← if inProgress.contains started then do
      onSocket Socket.waitWritable
      .emit .errorRead
      pure link.socket.pendingError
    else pure started
  if error ≠ 0 then
    let reason ← .ofExcept (Failure.explanation error)
    throw (.client (.connection (.text address.text) (.number port) (.text reason)))
  modify fun link => { link with connected := true }

/-- Reads what is there, at most `limit` bytes; no limit means the chunk of the connection, and so
does a limit of zero. Nothing is there if the result is `none`; the empty result means the end of
the stream. -/
def read (limit : Option Nat) : Act Effect Link (Option Bytes) := do
  let link ← get
  if !link.isOpen then return none
  let limit := match limit with
    | none | some 0 => link.chunk
    | some n => n
  match ← onSocket (Socket.receive limit false) with
  | .bytes b => do
    if b.isEmpty then modify fun link => { link with ended := true }
    return some b
  | .blocked => return none
  | .failed (.system e) => do
    if e.kind ≠ .wouldBlock then note .readFailed "read failed: " e
    return none
  | .failed f => throw f

/-- Sends bytes, of which the socket accepts as much at a time as it is scripted to. -/
def send : List Acceptance → Bytes → Act Effect Socket Unit
  | acceptances, bytes =>
    if bytes.isEmpty then pure ()
    else do
      Socket.waitWritable
      match acceptances with
      | [] => .emit (.sent bytes)
      | outcome :: rest => do
        modify fun s => { s with acceptances := rest }
        match outcome with
        | .upTo count => do
          .emit (.sent (bytes.take count))
          send rest (bytes.drop count)
        | .blocked => do
          .emit .sendBlocked
          send rest bytes
        | .failed f => do
          .emit .sendFailed
          match f with
          | .system e => if e.kind = .wouldBlock then send rest bytes else throw f
          | _ => throw f

/-- Writes bytes. A failure of the system ends the write and is logged. -/
def write (bytes : Bytes) : Act Effect Link Unit := do
  let link ← get
  if !link.isOpen then return
  match ← Act.attempt (onSocket (send link.socket.acceptances bytes)) with
  | .ok () => pure ()
  | .error (.system e) => note .writeFailed "write failed: " e
  | .error f => throw f

/-- The status of a connection; there is none once it is closed. Nothing is received by asking. -/
def status : Act Effect Link (Option Status) := do
  let link ← get
  if !link.isOpen then return none
  if !link.connected then return some .unconnected
  if link.ended then return some .ended
  match ← onSocket (Socket.receive 1 true) with
  | .bytes b =>
    if b.isEmpty then do
      modify fun link => { link with ended := true }
      return some .ended
    else return some .waiting
  | .blocked => return some .quiet
  | .failed (.system e) =>
    if e.kind = .wouldBlock then return some .quiet
    else do
      note .statusFailed "status failed: " e
      return some .unconnected
  | .failed f => throw f

/-- Closes a connection; nothing happens the second time. -/
def close : Act Effect Link Unit := do
  let link ← get
  if link.isOpen then
    .emit .closing
    .emit .closed
    set { link with isOpen := false }

def number : Act Effect Link Nat := do
  if (← get).isOpen then return socketNumber else throw .absentPart

end Link

end Telnet
