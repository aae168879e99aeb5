/-!
# Sites

Each record that the client writes to its log comes from a site of its own: a part of the client, an
action in it, and a line. A format may ask for any of the three.
-/

namespace Telnet.Log

/-- The occasions on which the client writes to its log. -/
inductive Site where
  /-- The settings of the command line are known. -/
  | settings
  | resolved
  | connecting
  | connected
  /-- A session moves to its next state. -/
  | stateChange
  | closedByHost
  /-- A proposal arrived that is not answered. -/
  | proposalIgnored
  | proposalReceived
  | typeSent
  | echoSwitched
  | endOfText
  | endOfTransmission
  | readFailed
  | writeFailed
  | statusFailed
  deriving DecidableEq, Repr

namespace Site

def part : Site → String
  | .settings | .connecting => "client"
  | .resolved => "target"
  | .connected | .stateChange | .closedByHost => "session"
  | .proposalIgnored | .proposalReceived | .typeSent => "negotiation"
  | .echoSwitched | .endOfText | .endOfTransmission => "console"
  | .readFailed | .writeFailed | .statusFailed => "connection"

def action : Site → String
  | .settings => "main"
  | .resolved => "resolve"
  | .connecting => "run_client"
  | .connected => "_ctx"
  | .stateChange => "_set_state"
  | .closedByHost => "_check_alive"
  | .proposalIgnored | .proposalReceived => "_dispatch"
  | .typeSent => "handle_terminal_type_query"
  | .echoSwitched => "set_echo"
  | .endOfText | .endOfTransmission => "read_line"
  | .readFailed => "read"
  | .writeFailed => "write"
  | .statusFailed => "status"

def line : Site → Nat
  | .settings => 145
  | .resolved => 96
  | .connecting => 57
  | .connected => 120
  | .stateChange => 96
  | .closedByHost => 171
  | .proposalIgnored => 104
  | .proposalReceived => 107
  | .typeSent => 118
  | .echoSwitched => 76
  | .endOfText => 109
  | .endOfTransmission => 113
  | .readFailed => 105
  | .writeFailed => 131
  | .statusFailed => 153

/-- The file that holds the part of the client that a site is in. -/
def file (s : Site) : String := s.part ++ ".py"

end Site

end Telnet.Log
