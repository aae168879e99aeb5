import Telnet.Address.Basic
import Telnet.Decimal.Binary64
import Telnet.Log.Record

/-!
# Effects and events

What a client does to the outside, one effect at a time: records in the log, questions to a
resolver, calls on sockets and on the terminal, and waiting. The trace of a session holds more than
effects: for each request that it makes of one of its two sides there is an event as well, whatever
that side does about it.
-/

namespace Telnet

inductive ModeItem where
  | number (n : Int)
  | characters (cs : List Int)
  /-- A value that no terminal reports. -/
  | other (d : Datum)
  deriving DecidableEq, Repr

abbrev Mode : Type := List ModeItem

/-- When a terminal mode takes effect. -/
inductive ModeChange where
  | now
  | afterFlush
  deriving DecidableEq, Repr

/-- The number by which a terminal is told when a mode takes effect. -/
def ModeChange.number : ModeChange → Nat
  | .now => 0
  | .afterFlush => 2

/-- One thing that is done to the outside. -/
inductive Effect where
  | logged (r : Log.Record)
  /-- A given resolver was asked for a host. -/
  | resolve (host : String)
  /-- The name service was asked for a host. -/
  | lookup (host : String)
  | created (family : Family)
  | unblocked
  | connecting (address : String) (port : Int)
  | errorRead
  | waitWritable
  | closing
  | closed
  | receive (limit : Nat) (peek : Bool)
  | sent (bytes : Bytes)
  | sendBlocked
  | sendFailed
  | modeSet (change : ModeChange) (mode : Mode)
  | displayed (bytes : Bytes)
  | flushed
  | poll (seconds : Decimal.Binary64)
  | sleep (seconds : Decimal.Binary64)
  deriving DecidableEq, Repr

def Effect.debug (logger : String) (site : Log.Site) (message : Log.Message) : Effect :=
  .logged (.debug logger site message)

inductive Request where
  /-- Open a connection for a family of addresses. -/
  | openFor (family : Family)
  | connect (address : Address) (port : Int)
  | read (limit : Nat)
  | write (bytes : Bytes)
  | status
  | close
  /-- Switch the local echo. -/
  | echo (enabled : Bool)
  | interrupt
  | readLine
  | display (bytes : Bytes)
  deriving DecidableEq, Repr

inductive Event where
  | effect (e : Effect)
  | asked (request : Request)
  deriving DecidableEq, Repr

/-- The effect that an event is, unless it is a request. -/
def Event.effect? : Event → Option Effect
  | .effect e => some e
  | .asked _ => none

def Event.request? : Event → Option Request
  | .effect _ => none
  | .asked request => some request

end Telnet
