import Telnet.Log.Record
import Telnet.Negotiation.Proposal

/-!
# Negotiation

The engine reads the chunks that arrive, answers the proposals in them and passes everything else on
to the display. A proposal is recognised only if its three bytes lie in one chunk; the escape byte
of any other command is passed on, and what follows it is read like all else.

Beside the bytes for the display and for the remote host, reading a chunk yields notes: what was
recognised, and when the local echo is to be switched, in the order in which it happened.
-/

namespace Telnet

inductive Note where
  /-- A command that is not answered. -/
  | ignored (command option : UInt8)
  | received (p : Proposal)
  /-- The terminal type was sent. -/
  | told (term : TerminalType)
  /-- The local echo is to be switched. -/
  | echo (enabled : Bool)
  deriving DecidableEq, Repr

namespace Note

/-- A byte by its name among some codes, or in decimal. -/
def byteName (name? : Option String) (b : UInt8) : String :=
  name?.getD (String.ofList (Text.decimal b.toNat))

/-- Where a note is logged, and its message; a switch of the echo is not logged. -/
def entry? : Note → Option (Log.Site × Log.Message)
  | .ignored command option =>
    let first := byteName ((Command.ofCode? command.toNat).map Command.name) command
    let second := byteName ((TelnetOption.ofCode? option.toNat).map TelnetOption.name) option
    some (.proposalIgnored, [.words "recv IAC ", .plain (.text first), .words " ",
      .plain (.text second), .words ": ignored"])
  | .received p =>
    some (.proposalReceived, [.words "recv IAC ", .plain (.text p.command.name), .words " ",
      .plain (.text p.option.name)])
  | .told term =>
    some (.typeSent, [.words "send IAC SB TTYPE IS ", .plain (.text term.text), .words " IAC SE"])
  | .echo _ => none

end Note

structure Engine where
  term : TerminalType
  /-- Whether the remote host echoes, so that the local echo is off. -/
  suppressed : Bool
  deriving DecidableEq, Repr

/-- What came of a chunk or of a proposal. -/
structure Fed where
  engine : Engine
  display : Bytes
  response : Bytes
  notes : List Note
  deriving DecidableEq, Repr

namespace Engine

def start (term : TerminalType) : Engine := ⟨term, false⟩

/-- Sets whether the remote host echoes. The local echo is switched only if that changes. -/
def suppress (e : Engine) (suppressed : Bool) : Engine × List Note :=
  ({ e with suppressed := suppressed },
    if e.suppressed = suppressed then [] else [.echo (!suppressed)])

/-- The engine after a proposal, and what is noted about the answer. -/
def accept (e : Engine) : Proposal → Engine × List Note
  | .terminalType => (e, [.told e.term])
  | .remoteEcho => e.suppress true
  | .noRemoteEcho => e.suppress false

def answer (e : Engine) (p : Proposal) : Fed :=
  ⟨(e.accept p).1, [], p.reply e.term, (e.accept p).2⟩

def feed : Engine → Bytes → Fed
  | e, b :: command :: option :: rest =>
    if b = Command.escape.code then
      match Proposal.ofBytes? command option with
      | some p =>
        let after := feed (e.accept p).1 rest
        ⟨after.engine, after.display, p.reply e.term ++ after.response,
          .received p :: (e.accept p).2 ++ after.notes⟩
      | none =>
        let after := feed e (command :: option :: rest)
        ⟨after.engine, b :: after.display, after.response,
          .ignored command option :: after.notes⟩
    else
      let after := feed e (command :: option :: rest)
      ⟨after.engine, b :: after.display, after.response, after.notes⟩
  | e, chunk => ⟨e, chunk, [], []⟩

end Engine

end Telnet
