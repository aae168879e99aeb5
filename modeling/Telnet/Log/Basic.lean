import Telnet.Log.Format

/-!
# Logging

A log has a level and a format. It shows the records whose level is positive and at least its own,
one line each. About a record to which the format cannot be applied there is a complaint instead,
which goes where errors are written even if the lines go to a file.
-/

namespace Telnet.Log

structure Settings where
  level : Int
  format : String
  deriving DecidableEq, Repr

namespace Settings

def defaultLevel : String := "info"

/-- The log with the named level and a format, once it is open. A wrong level is found before that,
a wrong format only then. -/
def ofNames (levelName : String) (opened : Except Failure Unit) (format : String) :
    Except Failure Settings := do
  let level ← Log.level levelName
  opened
  let format ← acceptFormat format
  return ⟨level, format⟩

def shows (log : Settings) (r : Record) : Bool := decide (0 < r.level ∧ log.level ≤ r.level)

def text (log : Settings) (records : List Record) : String :=
  String.join ((records.filter log.shows).filterMap (line? log.format))

/-- What a log writes where errors are written: its complaints, and its lines too unless they go to a
file. -/
def errors (log : Settings) (complaint : Record → String) (toFile : Bool)
    (records : List Record) : String :=
  String.join ((records.filter log.shows).map fun r =>
    match line? log.format r with
    | some line => if toFile then "" else line
    | none => complaint r)

end Settings

/-- The name of the logger that is asked for by a name: the empty one means the topmost logger. -/
def loggerName (name : String) : String := if name = "" then "root" else name

end Telnet.Log
