import Telnet.Command

/-!
# Connection status

The status of a connection is a number of one byte with a bit for each thing that may be said about
it. The other side has closed the connection once nothing more may be received.
-/

namespace Telnet

inductive StatusFlag where
  | listening | active | open_ | maySend | canSend | mayReceive | canReceive
  deriving DecidableEq, Repr

namespace StatusFlag

def all : List StatusFlag :=
  [.listening, .active, .open_, .maySend, .canSend, .mayReceive, .canReceive]

def bit : StatusFlag → Nat
  | .listening => 1
  | .active => 2
  | .open_ => 4
  | .maySend => 8
  | .canSend => 16
  | .mayReceive => 32
  | .canReceive => 64

def name : StatusFlag → String
  | .listening => "IS_LISTENING"
  | .active => "IS_ACTIVE"
  | .open_ => "IS_OPEN"
  | .maySend => "MAY_SEND"
  | .canSend => "CAN_SEND"
  | .mayReceive => "MAY_RECV"
  | .canReceive => "CAN_RECV"

def names : List CodeName := all.map fun f => ⟨f.name, f.name, f.bit⟩

end StatusFlag

/-- A status: a number, of which only some bits have a meaning. -/
abbrev Status : Type := Int

namespace Status

/-- Whether the bit of a flag is set. A negative number counts in two's complement. -/
def has (s : Status) (f : StatusFlag) : Bool := decide (s / (f.bit : Int) % 2 = 1)

/-- The status with just the given flags, none of which is given twice. -/
def ofFlags (flags : List StatusFlag) : Status :=
  flags.foldr (fun f (s : Int) => (f.bit : Int) + s) 0

/-- Whether the other side has closed the connection, so that no more data may arrive. -/
def isClosed (s : Status) : Bool := !s.has .mayReceive

/-- Open and not connected. -/
def unconnected : Status := .ofFlags [.open_]

/-- Connected, with the end of the stream reached. -/
def ended : Status := .ofFlags [.active, .open_, .maySend]

/-- Connected, with nothing to receive now. -/
def quiet : Status := .ofFlags [.active, .open_, .maySend, .mayReceive]

/-- Connected, with data to receive. -/
def waiting : Status := .ofFlags [.active, .open_, .maySend, .mayReceive, .canReceive]

end Status

end Telnet
