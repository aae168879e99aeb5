import Telnet.Command
import Telnet.Failure.Basic

/-!
# Naming codes

The bytes of a negotiation in words. A byte is named as a command if it is one, else as an option;
any other value has no name and is refused.
-/

namespace Telnet

def nameCode (value : Datum) : Except Failure String :=
  match value.number?.bind codeName? with
  | some name => .ok name
  | none => .error (.value (.unknownCode value))

/-- The names of several values with a separator between them. -/
def nameCodes (separator : String) (values : List Datum) : Except Failure String := do
  let names ← values.mapM nameCode
  return separator.intercalate names

end Telnet
