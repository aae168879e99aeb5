import Telnet.Connection.Link
import Telnet.Console
import Telnet.Session.Sides

/-!
# A console and a network

The surroundings of the program: a console, and a socket through which at most one connection is
held at a time. A connection that is opened again starts with the outcomes of a new socket, but
waiting goes on where it was.
-/

namespace Telnet

/-- A socket as it is when it is opened, and the connection that was opened last. -/
structure Network where
  socket : Socket
  link : Option Link
  deriving DecidableEq, Repr

namespace Network

def fresh (socket : Socket) : Network := ⟨socket, none⟩

def nextSocket (n : Network) : Socket :=
  match n.link with
  | some link => { n.socket with waits := link.socket.waits }
  | none => n.socket

/-- Opens a connection, which takes the place of the one before. -/
def openLink (family : Family) (chunk : Nat) : Act Effect Network Unit := do
  let n ← get
  let link ← Link.openOver n.nextSocket family chunk
  set { n with link := some link }

/-- An action on the connection, of which there has to be one. -/
def onLink {α : Type} (x : Act Effect Link α) : Act Effect Network α := do
  match (← get).link with
  | none => throw .absentPart
  | some link => .on (fun _ => link) (fun n link => { n with link := some link }) x

end Network

structure Surroundings where
  console : Console
  network : Network
  deriving DecidableEq, Repr

namespace Surroundings

def onConsole {α : Type} (x : Act Effect Console α) : Act Effect Surroundings α :=
  .on Surroundings.console (fun s c => { s with console := c }) x

def onNetwork {α : Type} (x : Act Effect Network α) : Act Effect Surroundings α :=
  .on Surroundings.network (fun s n => { s with network := n }) x

/-- An action on the connection. -/
def onLink {α : Type} (x : Act Effect Link α) : Act Effect Surroundings α :=
  onNetwork (Network.onLink x)

instance : Sides Surroundings where
  isCancelled s := s.console.isCancelled
  interrupt := modify fun s => { s with console := s.console.interrupt }
  readLine := onConsole Console.readLine
  setEcho enabled := onConsole (Console.setEcho enabled)
  display bytes := onConsole (Console.display bytes)
  openFor family := onNetwork (Network.openLink family standardChunk)
  connect address port := onLink (Link.connect address port)
  chunk s := (s.network.link.map Link.chunk).getD standardChunk
  read limit := onLink (Link.read (some limit))
  write bytes := onLink (Link.write bytes)
  status := onLink Link.status
  close := onLink Link.close
  sleep seconds := .emit (.sleep seconds)

end Surroundings

end Telnet
