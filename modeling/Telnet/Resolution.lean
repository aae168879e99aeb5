import Telnet.Act
import Telnet.Event
import Telnet.Text.Digit

/-!
# Resolution

From the text of a host to its address. A text that ends with a digit is an address and nothing
else; every other text is given to a resolver, whose answer may be a text, a number or bytes.
Failures of the system and of encoding mean that the host cannot be resolved.
-/

namespace Telnet

/-- A kind of address that the name service may return. -/
inductive ServiceFamily where
  | internet (family : Family)
  /-- A socket in the file system. -/
  | file
  deriving DecidableEq, Repr

/-- What the name service returns: entries in order, or a failure. -/
abbrev NameService : Type := Except Failure (List (ServiceFamily × String))

inductive Resolver where
  /-- A resolver that was given has this answer to every question. -/
  | given (answer : Except Failure Answer)
  /-- The name service is asked. -/
  | service (names : NameService)
  deriving Repr

namespace Resolution

variable {σ : Type}

/-- Whether a host is an address and not a name. -/
def isLiteral (host : String) : Bool := host.toList.getLast?.any Text.isDigit

/-- The failure of a lookup that found nothing to use. -/
def nothingFound : Failure := .system (.raised .general [.text "no address found"])

/-- The address of the first entry for the internet. -/
def firstInternet? (entries : List (ServiceFamily × String)) : Option String :=
  entries.findSome? fun
    | (.internet _, address) => some address
    | (.file, _) => none

def ask (resolver : Resolver) (host : String) : Act Effect σ Answer :=
  match resolver with
  | .given answer => do
    .emit (.resolve host)
    .ofExcept answer
  | .service names => do
    .emit (.lookup host)
    let entries ← .ofExcept names
    match firstInternet? entries with
    | some address => return .text address
    | none => throw nothingFound

/-- The failure that is reported for a failure to ask. -/
def reported (host : String) : Failure → Failure
  | .system e => .client (.resolution (.text host) e.reason)
  | .encoding details =>
    let report := Datum.report details
    .client (.resolution (.text host) (.text (if report = "" then "invalid host name" else report)))
  | f => f

/-- Finds the address of a host. What the resolver answers is logged before it is read. -/
def resolve (logger : String) (resolver : Resolver) (host : String) : Act Effect σ Address :=
  if isLiteral host then
    match Address.ofText? host with
    | some address => return address
    | none => throw (.client (.invalidAddress (.text host)))
  else do
    let answer ← tryCatch (ask resolver host) fun f => throw (reported host f)
    .emit (.debug logger .resolved
      [.words "resolved ", .plain (.text host), .words " to ", .plain answer.datum])
    .ofExcept answer.address

end Resolution

end Telnet
