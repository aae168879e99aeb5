import Telnet.Act
import Telnet.Connection.Status
import Telnet.Event

/-!
# The two sides of a session

A session stands between a user at a console and a remote host. What it needs of them is gathered in
one class, so that a session can be held over a terminal and a socket as well as over two scripts.
-/

namespace Telnet

/-- Surroundings that have a local and a remote side. -/
class Sides (ω : Type) where
  /-- Whether the user has ended the session. -/
  isCancelled : ω → Bool
  /-- The user interrupts the session. -/
  interrupt : Act Effect ω Unit
  /-- The next line; it is empty if it ends the session. -/
  readLine : Act Effect ω Bytes
  /-- Switches the local echo. -/
  setEcho : Bool → Act Effect ω Unit
  display : Bytes → Act Effect ω Unit
  openFor : Family → Act Effect ω Unit
  connect : Address → Int → Act Effect ω Unit
  /-- The largest chunk that is read at once. -/
  chunk : ω → Nat
  /-- What has arrived: nothing, some bytes, or the empty chunk at the end of the stream. -/
  read : Nat → Act Effect ω (Option Bytes)
  write : Bytes → Act Effect ω Unit
  status : Act Effect ω (Option Status)
  close : Act Effect ω Unit
  /-- Lets some seconds pass. -/
  sleep : Decimal.Binary64 → Act Effect ω Unit

end Telnet
