import Telnet.Decimal.Binary64
import Telnet.Failure.Basic

/-!
# Time limits

Connecting may take a limited time, and so may waiting for a handle. How long an attempt to connect
has to wait is scripted with its socket: a wait that ends is in time, and one that never ends reaches
every limit but an infinite one, a limit that leaves no time among them. Of some values no limit can
be made.
-/

namespace Telnet

/-- A limit for the time that connecting may take. -/
inductive Limit where
  | endless
  | seconds (x : Decimal.Binary64)
  /-- What was given is no number. -/
  | malformed
  /-- What was given is a whole number beyond double precision. -/
  | tooLarge
  deriving DecidableEq, Repr

namespace Limit

/-- The limit unless another one is chosen: five seconds. -/
def standardSeconds : Decimal.Binary64 := .ofRatio false 5 1

def ofInt (n : Int) : Limit :=
  match Decimal.Binary64.ofInt n with
  | .infinite _ => .tooLarge
  | x => .seconds x

def isReached : Limit → Bool
  | .seconds (.finite _ _ _) => true
  | .seconds (.infinite negative) => negative
  | _ => false

/-- Whether a limit leaves any time at all. -/
def leavesTime : Limit → Bool
  | .seconds (.finite negative mantissa _) => !negative && mantissa != 0
  | .seconds (.infinite negative) => !negative
  | _ => true

/-- Fails if a limit cannot be set. -/
def check : Limit → Except Failure Unit
  | .malformed => .error .wrongShape
  | .tooLarge => .error (.range .seconds)
  | .seconds .undefined => .error (.value .undefinedTime)
  | _ => .ok ()

end Limit

end Telnet
