import Telnet.Failure.Basic
import Telnet.Text.Fields
import Telnet.Text.Numeral

/-!
# Endpoints

Where to connect to: a host and a port. In text the port follows the host behind a colon; it counts
if it is a run of ASCII digits with a value of at most sixteen bits, and the standard port takes the
place of any other.
-/

namespace Telnet

def standardPort : Nat := 23

def greatestPort : Nat := 0xffff

structure Endpoint where
  host : String
  port : Int
  deriving DecidableEq, Repr

namespace Endpoint

def standard (host : String) : Endpoint := ⟨host, standardPort⟩

def text (e : Endpoint) : String := e.host ++ ":" ++ String.ofList (Text.signedDecimal e.port)

def datum (e : Endpoint) : Datum :=
  .other e.text ("Endpoint(host=" ++ Text.quote e.host ++ ", port=" ++
    String.ofList (Text.signedDecimal e.port) ++ ")") true

/-- The port that a text stands for. A number may have only so many digits. -/
def portOfText (text : List Char) : Except Failure Nat :=
  if text.isEmpty || !text.all Char.isDigit then .ok standardPort
  else if ValueFault.digitLimit < text.length then .error (.value (.tooManyDigits text.length))
  else
    let port := Nat.ofDigitChars 10 text 0
    .ok (if port ≤ greatestPort then port else standardPort)

/-- The endpoint that a text stands for: it is cut at its first colon. -/
def ofText (text : String) : Except Failure Endpoint :=
  match Text.cut ':' text.toList with
  | (host, none) => .ok (standard (String.ofList host))
  | (host, some port) => do
    let port ← portOfText port
    .ok ⟨String.ofList host, port⟩

end Endpoint

end Telnet
