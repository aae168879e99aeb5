import Telnet.Act
import Telnet.Event

/-!
# Sockets

A socket is known by the outcomes of the calls that are made on it: how it opens, how an attempt to
connect goes, what arrives, how much it accepts at a time, and how waiting ends. Each call takes the
next outcome of its kind.
-/

namespace Telnet

inductive Arrival where
  | data (bytes : Bytes)
  /-- Nothing right now. -/
  | blocked
  /-- The end of the stream, which stays. -/
  | ended
  | failed (f : Failure)
  deriving DecidableEq, Repr

inductive Acceptance where
  /-- Takes at most so many of them. -/
  | upTo (count : Nat)
  /-- Takes nothing right now. -/
  | blocked
  | failed (f : Failure)
  deriving DecidableEq, Repr

/-- The outcomes of the calls on a socket. When one of the lists is used up, there is nothing to
receive, everything is accepted, and waiting ends at once. -/
structure Socket where
  /-- Why the socket cannot be opened. -/
  openFailure : Option Failure
  /-- The error number of the attempt to connect. -/
  connectResult : Int
  /-- The error number that is read after waiting. -/
  pendingError : Int
  /-- Waiting never ends. -/
  hangs : Bool
  arrivals : List Arrival
  acceptances : List Acceptance
  /-- How waiting until the socket is writable ends: well, or with a failure. -/
  waits : List (Option Failure)
  deriving DecidableEq, Repr

namespace Socket

/-- A socket that connects at once and then is silent. -/
def silent : Socket := ⟨none, 0, 0, false, [], [], []⟩

def waitWritable : Act Effect Socket Unit := do
  .emit .waitWritable
  let s ← get
  if s.hangs then throw .stalled
  match s.waits with
  | [] => pure ()
  | outcome :: rest => do
    set { s with waits := rest }
    match outcome with
    | none => pure ()
    | some f => throw f

/-- What is received: some bytes, nothing right now, or a failure. -/
inductive Received where
  | bytes (b : Bytes)
  | blocked
  | failed (f : Failure)
  deriving DecidableEq, Repr

/-- The outcome of receiving at most `limit` bytes, and what is there to receive afterwards. -/
def take (limit : Nat) : List Arrival → Received × List Arrival
  | [] => (.blocked, [])
  | .data b :: rest =>
    (.bytes (b.take limit),
      if (b.drop limit).isEmpty then rest else .data (b.drop limit) :: rest)
  | .blocked :: rest => (.blocked, rest)
  | .ended :: rest => (.bytes [], .ended :: rest)
  | .failed f :: rest => (.failed f, rest)

/-- The outcome of looking at the next byte, which stays, and what is there to receive afterwards.
-/
def peek : List Arrival → Received × List Arrival
  | .data b :: rest => (.bytes (b.take 1), .data b :: rest)
  | arrivals => take 1 arrivals

/-- Receives at most `limit` bytes, or looks at the next one. -/
def receive (limit : Nat) (isPeek : Bool) : Act Effect Socket Received := do
  .emit (.receive limit isPeek)
  let s ← get
  let (received, rest) := if isPeek then peek s.arrivals else take limit s.arrivals
  set { s with arrivals := rest }
  return received

end Socket

end Telnet
