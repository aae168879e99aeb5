import Telnet.Bytes
import Telnet.Command
import Telnet.Failure.Basic

/-!
# Terminal types and proposals

The remote host may ask for the type of the terminal, and may start or stop to echo what it
receives. Each of these proposals is an escape byte, a command and an option, and each has its own
reply; every other pair of command and option is no proposal that is answered.
-/

namespace Telnet

/-- The type of a terminal, as it is told to the remote host: any text in ASCII. -/
structure TerminalType where
  text : String
  isAscii : text.toList.all (fun c => c.toNat < 128) = true
  deriving DecidableEq, Repr

namespace TerminalType

/-- The terminal type that is told unless another one is chosen. -/
def standard : TerminalType := ⟨"XTERM-256COLOR", by decide⟩

/-- The terminal type with a text, which has to be in ASCII. -/
def ofText (text : String) : Except Failure TerminalType :=
  if h : text.toList.all (fun c => c.toNat < 128) = true then .ok ⟨text, h⟩
  else .error (.ofTerminalType text)

def bytes (t : TerminalType) : Bytes := t.text.toList.map fun c => UInt8.ofNat c.toNat

end TerminalType

inductive Proposal where
  /-- Asks for the type of the terminal. -/
  | terminalType
  /-- Is going to echo what it receives. -/
  | remoteEcho
  /-- Is not going to echo what it receives. -/
  | noRemoteEcho
  deriving DecidableEq, Repr

namespace Proposal

def all : List Proposal := [.terminalType, .remoteEcho, .noRemoteEcho]

def command : Proposal → Command
  | .terminalType => .do_
  | .remoteEcho => .will
  | .noRemoteEcho => .wont

def option : Proposal → TelnetOption
  | .terminalType => .terminalType
  | .remoteEcho => .echo
  | .noRemoteEcho => .echo

/-- The proposal that a command and an option make, by their codes. -/
def ofCodes? (command option : Int) : Option Proposal :=
  all.find? fun p => decide ((p.command.code.toNat : Int) = command) &&
    decide ((p.option.code.toNat : Int) = option)

/-- The proposal that two bytes behind an escape make. -/
def ofBytes? (command option : UInt8) : Option Proposal :=
  all.find? fun p => decide (p.command.code = command) && decide (p.option.code = option)

/-- The name under which a proposal is asked for. -/
def key : Proposal → String
  | .terminalType => "terminal_type_query"
  | .remoteEcho => "echo_suppress_request"
  | .noRemoteEcho => "echo_suppress_withdraw"

def ofKey? (key : String) : Option Proposal := all.find? fun p => p.key = key

/-- The title of a proposal, and of what is none. -/
def title : Option Proposal → String
  | some .terminalType => "TERMINAL_TYPE_QUERY"
  | some .remoteEcho => "ECHO_SUPPRESS_REQUEST"
  | some .noRemoteEcho => "ECHO_SUPPRESS_WITHDRAW"
  | none => "UNRECOGNIZED"

/-- The short label of a proposal, and of what is none. -/
def label : Option Proposal → String
  | some .terminalType => "ttype"
  | some .remoteEcho => "will_echo"
  | some .noRemoteEcho => "wont_echo"
  | none => "unknown"

def bytes (p : Proposal) : Bytes := [Command.escape.code, p.command.code, p.option.code]

/-- The reply to a proposal: the type of the terminal, or the consent to the change of echo. -/
def reply (term : TerminalType) : Proposal → Bytes
  | .terminalType =>
    [Command.escape.code, Command.subBegin.code, TelnetOption.terminalType.code,
        Subnegotiation.is.code] ++
      term.bytes ++ [Command.escape.code, Command.subEnd.code]
  | .remoteEcho => [Command.escape.code, Command.do_.code, TelnetOption.echo.code]
  | .noRemoteEcho => [Command.escape.code, Command.dont.code, TelnetOption.echo.code]

end Proposal

end Telnet
