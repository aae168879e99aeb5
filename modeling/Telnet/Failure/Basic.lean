import Telnet.Failure.System

/-!
# Failures

What can go wrong, by cause. A client error ends the program with a message and an exit code of its
own; a system failure may be reported as one; the other causes are faults of an argument or of
the program's use of its parts.
-/

namespace Telnet

inductive ExitCode where
  | success | failure | usageError
  deriving DecidableEq, Repr

namespace ExitCode

def all : List ExitCode := [.success, .failure, .usageError]

def number : ExitCode → Nat
  | .success => 0
  | .failure => 1
  | .usageError => 64

def name : ExitCode → String
  | .success => "SUCCESS"
  | .failure => "FAILURE"
  | .usageError => "USAGE_ERROR"

end ExitCode

/-- An error that ends the client. None of them is tried again. -/
inductive ClientError where
  /-- Any other reason. -/
  | general (details : List Datum)
  /-- The command line is wrong. -/
  | usage (details : List Datum)
  /-- A host that looks like an address and is none. -/
  | invalidAddress (host : Datum)
  /-- A host name that could not be looked up. -/
  | resolution (host reason : Datum)
  /-- A connection that could not be made. -/
  | connection (address port reason : Datum)
  /-- A socket that could not be opened at all. -/
  | device (details : List Datum)
  deriving DecidableEq, Repr

/-- Why an error cannot be put in words. -/
inductive Unspoken where
  /-- The detail that explains it is missing. -/
  | noDetail
  /-- What should be a number is none. -/
  | noNumber
  /-- What should be a whole number is infinite. -/
  | infiniteNumber
  /-- What should be a whole number is undefined. -/
  | undefinedNumber
  deriving DecidableEq, Repr

/-- The whole number that stands for a value in a message: what is behind the point is dropped. -/
def Datum.whole : Datum → Except Unspoken Int
  | .decimal (.infinite _) => .error .infiniteNumber
  | .decimal .undefined => .error .undefinedNumber
  | .decimal x => (x.wholePart?.map Except.ok).getD (.error .noNumber)
  | d => (d.integer?.map Except.ok).getD (.error .noNumber)

namespace ClientError

def exitCode : ClientError → ExitCode
  | .usage _ => .usageError
  | .invalidAddress _ => .usageError
  | _ => .failure

/-- What an error records beside its message. -/
def attributes : ClientError → List (String × Datum)
  | .invalidAddress host => [("host", host)]
  | .resolution host reason => [("host", host), ("reason", reason)]
  | .connection address port reason =>
    [("address", address), ("port", port), ("reason", reason)]
  | _ => []

def message : ClientError → Except Unspoken String
  | .general details => .ok (Datum.report details)
  | .usage details => .ok (Datum.report details)
  | .invalidAddress host => .ok ("Invalid address format: " ++ host.quoted)
  | .resolution host reason =>
    .ok ("Could not resolve host " ++ host.quoted ++ ": " ++ reason.plain)
  | .connection address port reason =>
    match port.whole with
    | .error unspoken => .error unspoken
    | .ok n =>
      let place := address.plain ++ ":" ++ String.ofList (Text.signedDecimal n)
      .ok ("Could not connect to " ++ place ++
        if reason.isTelling then ": " ++ reason.plain else "")
  | .device [] => .error .noDetail
  | .device (cause :: _) => .ok ("Could not open network device: " ++ cause.plain)

/-- The error about an address, if there is one detail to it. -/
def invalidAddress? : List Datum → Option ClientError
  | [host] => some (.invalidAddress host)
  | _ => none

/-- The error about a name, if there are a host and a reason. -/
def resolution? : List Datum → Option ClientError
  | [host, reason] => some (.resolution host reason)
  | _ => none

/-- The error about a connection, if there are an address and a port; the reason may be missing. -/
def connection? : List Datum → Option ClientError
  | [address, port] => some (.connection address port .absent)
  | [address, port, reason] => some (.connection address port reason)
  | _ => none

end ClientError

inductive ValueFault where
  /-- The fault was reported with these details. -/
  | reported (details : List Datum)
  /-- A number with more digits than are read. -/
  | tooManyDigits (count : Nat)
  /-- The answer of a resolver that is no address, as it is named in messages. -/
  | notAnAddress (answer : String)
  /-- A terminal type outside ASCII. -/
  | terminalType (term : String)
  /-- A code without a name. -/
  | unknownCode (code : Datum)
  /-- A name in place of a log level that stands for a text. -/
  | unknownLevel (text : String)
  /-- A log format that mentions no field. -/
  | logFormat (format : String)
  /-- A point in time that is no number. -/
  | undefinedTime
  /-- A whole number was made of a number that is undefined. -/
  | undefinedWhole
  /-- A count that the system cannot have. -/
  | tooLargeCount
  /-- A path with the character that ends a text of the system. -/
  | brokenPath
  deriving DecidableEq, Repr

namespace ValueFault

/-- The greatest number of digits that are read as one number. -/
def digitLimit : Nat := 4300

def message : ValueFault → String
  | .reported details => Datum.report details
  | .tooManyDigits count =>
    "Exceeds the limit (" ++ toString digitLimit ++
      " digits) for integer string conversion: value has " ++ toString count ++
      " digits; use sys.set_int_max_str_digits() to increase the limit"
  | .notAnAddress answer => answer ++ " does not appear to be an IPv4 or IPv6 address"
  | .terminalType term => "terminal type must be ASCII: " ++ Text.quote term
  | .unknownCode code => "Unknown: " ++ code.quoted
  | .unknownLevel text => "Unknown level: " ++ Text.quote text
  | .logFormat format => "Invalid format '" ++ format ++ "' for '%' style"
  | .undefinedTime => "deadline must not be NaN"
  | .undefinedWhole => "cannot convert float NaN to integer"
  | .tooLargeCount => "cannot fit 'int' into an index-sized integer"
  | .brokenPath => "embedded null byte"

end ValueFault

inductive UsageFault where
  /-- The fault was reported with these details. -/
  | reported (details : List Datum)
  /-- A scope was entered a second time. -/
  | alreadyEntered
  /-- A scope whose body is over was left with an error. -/
  | bodyOver
  deriving DecidableEq, Repr

namespace UsageFault

def message : UsageFault → String
  | .reported details => Datum.report details
  | .alreadyEntered => "Double context"
  | .bodyOver => "generator didn't stop after athrow()"

end UsageFault

inductive RangeFault where
  /-- An error number that the system cannot have. -/
  | errorNumber
  /-- A number of seconds. -/
  | seconds
  /-- A whole number was made of a number that is infinite. -/
  | infiniteWhole
  deriving DecidableEq, Repr

def RangeFault.message : RangeFault → String
  | .errorNumber => "Python int too large to convert to C int"
  | .seconds => "int too large to convert to float"
  | .infiniteWhole => "cannot convert float infinity to integer"

/-- Why an action did not come to its end. -/
inductive Failure where
  | client (e : ClientError)
  | system (e : SystemError)
  /-- A text that cannot be encoded. -/
  | encoding (details : List Datum)
  | value (fault : ValueFault)
  | range (fault : RangeFault)
  | usage (fault : UsageFault)
  /-- The user interrupted the program. -/
  | interrupt (details : List Datum)
  /-- A part was used that is not there. -/
  | absentPart
  /-- A value has the wrong shape. -/
  | wrongShape
  /-- A place was used that is not there. -/
  | outOfRange
  /-- The action waits for something that never comes. -/
  | stalled
  /-- The failures of a group of tasks, as they leave it together. -/
  | group (inner : List Failure)
  deriving Repr

namespace Failure

mutual

def same : Failure → Failure → Bool
  | .client a, .client b => a = b
  | .system a, .system b => a = b
  | .encoding a, .encoding b => a = b
  | .value a, .value b => a = b
  | .range a, .range b => a = b
  | .usage a, .usage b => a = b
  | .interrupt a, .interrupt b => a = b
  | .absentPart, .absentPart => true
  | .wrongShape, .wrongShape => true
  | .outOfRange, .outOfRange => true
  | .stalled, .stalled => true
  | .group a, .group b => sameAll a b
  | _, _ => false

def sameAll : List Failure → List Failure → Bool
  | [], [] => true
  | f :: fs, g :: gs => same f g && sameAll fs gs
  | _, _ => false

end

mutual

theorem same_iff : (f g : Failure) → (same f g = true ↔ f = g)
  | .group fs, g => by
    have hall := sameAll_iff fs
    cases g <;> simp [same, hall]
  | .client _, g | .system _, g | .encoding _, g | .value _, g | .range _, g | .usage _, g
  | .interrupt _, g | .absentPart, g | .wrongShape, g | .outOfRange, g | .stalled, g => by
    cases g <;> simp [same]

theorem sameAll_iff : (fs gs : List Failure) → (sameAll fs gs = true ↔ fs = gs)
  | [], gs => by cases gs <;> simp [sameAll]
  | f :: fs, gs => by
    have hfirst := same_iff f
    have hrest := sameAll_iff fs
    cases gs <;> simp [sameAll, hfirst, hrest]

end

instance : DecidableEq Failure := fun f g => decidable_of_iff (same f g = true) (same_iff f g)

/-- The text of a failure, if it has one. -/
def message? : Failure → Option String
  | .client e => e.message.toOption
  | .system e => some e.message
  | .encoding details => some (Datum.report details)
  | .value fault => some fault.message
  | .range fault => some fault.message
  | .usage fault => some fault.message
  | .interrupt details => some (Datum.report details)
  | .absentPart | .wrongShape | .outOfRange | .stalled | .group _ => none

/-- The failure that a wrong terminal type causes. -/
def ofTerminalType (term : String) : Failure := .value (.terminalType term)

/-- The failure that comes of an error which cannot be put in words. -/
def ofUnspoken : Unspoken → Failure
  | .noDetail => .outOfRange
  | .noNumber => .wrongShape
  | .infiniteNumber => .range .infiniteWhole
  | .undefinedNumber => .value .undefinedWhole

/-- The least and the greatest count that the system can have. -/
def counts : Int × Int := (-9223372036854775808, 9223372036854775807)

/-- A system failure that is made of some details, or the fault of details that none is made of:
what was written before a call that would block has to be a count. -/
def ofDetails (kind : SystemKind) (given : List Datum) : Except Failure SystemError :=
  let e := SystemError.raised kind given
  match e.written? with
  | none => .ok e
  | some d => match d.integer? with
    | none => .error .wrongShape
    | some n =>
      if counts.1 ≤ n ∧ n ≤ counts.2 then .ok e else .error (.value .tooLargeCount)

/-- The least and the greatest error number that the system can have. -/
def errorNumbers : Int × Int := (-2147483648, 2147483647)

/-- The text that the system has for an error number, if it can have such a number. -/
def explanation (n : Int) : Except Failure String :=
  if errorNumbers.1 ≤ n ∧ n ≤ errorNumbers.2 then .ok (errorText n)
  else .error (.range .errorNumber)

end Failure

end Telnet
