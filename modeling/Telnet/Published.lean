import Telnet.Command
import Telnet.Connection.Status
import Telnet.Failure.Basic

/-!
# Published names

The names under which the parts of the client are known to its users: the families of codes, their
members, and for each part the names that it publishes.
-/

namespace Telnet.Published

def families : List (String × List CodeName) :=
  [("Cmd", Command.names), ("Opt", TelnetOption.names), ("SubT", Subnegotiation.names),
    ("ExitCode", ExitCode.all.map fun e => ⟨e.name, e.name, e.number⟩),
    ("SocketStatus", StatusFlag.names)]

def members? (family : String) : Option (List CodeName) := families.lookup family

/-- The families whose members are known by their own names. -/
def openFamilies : List String := ["Cmd", "Opt", "SubT"]

/-- The family and the member with a name, among those that are known by their own names. -/
def constant? (name : String) : Option (String × CodeName) :=
  openFamilies.findSome? fun family =>
    ((members? family).getD []).findSome? fun c =>
      if c.key = name then some (family, c) else none

/-- The names of the codes and of what is done with them. One verb of a subnegotiation is left out,
because its name is too general. -/
def codeNames : List String :=
  openFamilies ++ ["name_command", "name_commands"] ++
    (Command.names ++ TelnetOption.names).map CodeName.key ++ [Subnegotiation.is.name]

/-- The parts of the client that are published as a whole, with their names. -/
def parts : List (String × List String) :=
  [("errors", ["ExitCode", "TelnetError", "UsageError", "ResolutionFailure",
      "InvalidAddressFormat", "ConnectionFailure", "DeviceUnavailable"]),
    ("telopt", codeNames),
    ("target", ["Endpoint", "parse_target", "resolve", "DEFAULT_PORT"]),
    ("negotiation", ["NegotiationEvent", "NegotiationEngine", "EchoControl", "classify",
      "DEFAULT_TERM"]),
    ("connection", ["SocketStatus", "TcpConnection", "is_closed", "poll"]),
    ("console", ["Console", "ETX", "EOT"]),
    ("session", ["SessionState", "Session", "SessionPump"]),
    ("client", ["run_client", "main"])]

/-- A part whose names are not among those of all parts together. -/
def unlisted : String × List String :=
  ("accessories", ["name_unicode", "make_logger", "repr_mapping", "CtxObj"])

/-- Names in the order of their code points. -/
def sorted (names : List String) : List String := names.mergeSort fun a b => decide (a ≤ b)

/-- The names that a part publishes; the empty name stands for all parts together. -/
def exports? (part : String) : Option (List String) :=
  if part = "" then some (sorted (parts.flatMap Prod.snd))
  else ((unlisted :: parts).lookup part).map sorted

end Telnet.Published
