import Telnet.Value

/-!
# Messages

A message of the log is made of words with values between them. Beside its text it is known by its
pattern, in which a mark stands for each value, and by the values.
-/

namespace Telnet.Log

inductive Part where
  | words (s : String)
  /-- A value in plain print. -/
  | plain (d : Datum)
  /-- A value in quoted form. -/
  | quoted (d : Datum)
  | number (n : Int)
  deriving DecidableEq, Repr

namespace Part

def text : Part → String
  | .words s => s
  | .plain d => d.plain
  | .quoted d => d.quoted
  | .number n => String.ofList (Text.signedDecimal n)

def pattern : Part → String
  | .words s => s
  | .plain _ => "%s"
  | .quoted _ => "%r"
  | .number _ => "%d"

/-- The value of a part that is not made of words. -/
def datum? : Part → Option Datum
  | .words _ => none
  | .plain d => some d
  | .quoted d => some d
  | .number n => some (.number n)

end Part

abbrev Message : Type := List Part

namespace Message

def text (m : Message) : String := String.join (m.map Part.text)

def pattern (m : Message) : String := String.join (m.map Part.pattern)

def data (m : Message) : List Datum := m.filterMap Part.datum?

end Message

end Telnet.Log
