import Telnet.Address.Basic
import Telnet.Negotiation.Engine

/-!
# Sessions

The state of one connection to a remote host, with every state that it went through, and the state
of the negotiation with that host.
-/

namespace Telnet

inductive SessionState where
  | connecting | active | closing | closed
  deriving DecidableEq, Repr

def SessionState.name : SessionState → String
  | .connecting => "connecting"
  | .active => "active"
  | .closing => "closing"
  | .closed => "closed"

/-- A session with the host at an address and a port. -/
structure Session where
  address : Address
  port : Int
  engine : Engine
  state : SessionState
  /-- All states so far, the present one last. -/
  history : List SessionState
  /-- Whether there is a connection. -/
  hasHandle : Bool
  deriving DecidableEq, Repr

namespace Session

def start (address : Address) (port : Int) (term : TerminalType) : Session :=
  ⟨address, port, .start term, .connecting, [.connecting], false⟩

/-- Whether data may flow. -/
def isConnected (s : Session) : Bool := s.state = .active

def become (s : Session) (next : SessionState) : Session :=
  { s with state := next, history := s.history ++ [next] }

/-- The address and port of a session in print. -/
def place (s : Session) : String :=
  s.address.text ++ ":" ++ String.ofList (Text.signedDecimal s.port)

def text (s : Session) : String := "<Session: " ++ s.place ++ " " ++ s.state.name ++ ">"

end Session

end Telnet
