import Telnet.Log.Record
import Telnet.Failure.Basic

/-!
# Log levels

A level is chosen by name, in letters of either case. Two of the names that are known stand for
something else than a level and are refused, each with a fault of its own.
-/

namespace Telnet.Log

/-- A letter as a capital, if the result is in ASCII; other characters stay as they are. -/
def capital (c : Char) : List Char :=
  if c.isLower then [c.toUpper]
  else if c = 'ı' then ['I']
  else if c = 'ſ' then ['S']
  else if c = 'ß' then ['S', 'S']
  else if c = 'ﬀ' then ['F', 'F']
  else if c = 'ﬁ' then ['F', 'I']
  else if c = 'ﬂ' then ['F', 'L']
  else if c = 'ﬃ' then ['F', 'F', 'I']
  else if c = 'ﬄ' then ['F', 'F', 'L']
  else if c = 'ﬅ' then ['S', 'T']
  else if c = 'ﬆ' then ['S', 'T']
  else [c]

def levelNames : List (String × Int) :=
  [("CRITICAL", 50), ("FATAL", 50), ("ERROR", 40), ("WARNING", 30), ("WARN", 30), ("INFO", 20),
    ("DEBUG", debugLevel), ("NOTSET", 0)]

/-- The name that stands for a format. -/
def formatName : String := "BASIC_FORMAT"

/-- The format that `formatName` stands for. -/
def basicFormat : String := "%(levelname)s:%(name)s:%(message)s"

/-- The name that stands for the table of styles. -/
def styleTableName : String := "_STYLES"

def level (name : String) : Except Failure Int :=
  let capitals := String.ofList (name.toList.flatMap capital)
  match levelNames.lookup capitals with
  | some n => .ok n
  | none =>
    if capitals = formatName then .error (.value (.unknownLevel basicFormat))
    else if capitals = styleTableName then .error .wrongShape
    else .error .absentPart

/-- The name of a level: its first name, or its number. -/
def levelName (n : Int) : String :=
  match levelNames.find? fun entry => entry.2 = n with
  | some (name, _) => name
  | none => "Level " ++ String.ofList (Text.signedDecimal n)

end Telnet.Log
