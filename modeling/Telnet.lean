import Telnet.Address.Place.Lemmas
import Telnet.Client
import Telnet.Command.Naming
import Telnet.Log.Basic
import Telnet.Main
import Telnet.Program
import Telnet.Published
import Telnet.Readiness
import Telnet.Session.Scripted
import Telnet.Text.Caret
import Telnet.Proofs.Arguments.Fault
import Telnet.Proofs.Arguments.Order
import Telnet.Proofs.Negotiation.Stream
import Telnet.Proofs.Scope
import Telnet.Proofs.Session.Lifecycle
import Telnet.Proofs.Session.Receiving
import Telnet.Proofs.Session.Invariant
import Telnet.Proofs.Session.Echo
import Telnet.Proofs.Session.Surroundings
import Telnet.Proofs.Session.Socket
import Telnet.Proofs.Session.Ending
import Telnet.Proofs.Session.Reliable
import Telnet.Proofs.Connection.Ordinary
import Telnet.Proofs.Console.Reading
import Telnet.Proofs.Console.Restoring
import Telnet.Proofs.Client.Resolving
import Telnet.Proofs.Client.Mode
import Telnet.Proofs.Client.Socket
import Telnet.Proofs.Program
import Telnet.Proofs.Session.Sending
import Telnet.Proofs.Session.History
import Telnet.Proofs.Session.Transfer
import Telnet.Proofs.Session.Cancelling
import Telnet.Proofs.Client.Outcome
import Telnet.Proofs.Program.ExitCode
import Telnet.Proofs.Program.Diagnostic
import Telnet.Proofs.Client.Group
import Telnet.Proofs.Session.Failing
import Telnet.Proofs.Connection.Interleaving
import Telnet.Proofs.Connection.Writing
import Telnet.Proofs.Negotiation.Decoding
import Telnet.Proofs.Session.Unattended
import Telnet.Proofs.Connection.Lifetime
import Telnet.Proofs.Session.Entering
import Telnet.Proofs.Client.Address
import Telnet.Proofs.Readiness
import Telnet.Proofs.Negotiation.Examining
