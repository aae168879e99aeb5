import Telnet.Log.Level

/-!
# Fields

The fields of a record that a format may refer to, by name. Some of them, such as the time and the
number of the process, differ from one run to the next; they are fields of every record, and of them
no more is known than how they begin.
-/

namespace Telnet.Log

/-- The fields that differ from one run to the next, each with the beginning of its print. -/
def passingFields : List (String × Datum) :=
  [("asctime", .other "20" "'20" true), ("created", .other "1" "1" true),
    ("msecs", .other "" "" true), ("relativeCreated", .other "" "" true),
    ("thread", .other "" "" true), ("process", .other "" "" true),
    ("pathname", .other "/" "'/" true)]

namespace Record

/-- The values in the message of a record, as one value. -/
def values (r : Record) : Datum :=
  let print := Datum.tuple r.message.data
  .other print print !r.message.data.isEmpty

/-- The fields of a record that are the same in every run. -/
def fields (r : Record) : List (String × Datum) :=
  [("name", .text r.logger), ("msg", .text r.message.pattern), ("args", r.values),
    ("levelname", .text (levelName r.level)), ("levelno", .number r.level),
    ("filename", .text ((r.site.map Site.file).getD "")),
    ("module", .text ((r.site.map Site.part).getD "")),
    ("exc_info", .absent), ("exc_text", .absent), ("stack_info", .absent),
    ("lineno", .number ((r.site.map Site.line).getD 0)),
    ("funcName", .text ((r.site.map Site.action).getD "")),
    ("threadName", .text "MainThread"), ("processName", .text "MainProcess"),
    ("message", .text r.text)]

def field? (r : Record) (name : String) : Option Datum :=
  (r.fields ++ passingFields).lookup name

/-- The number of fields in front of the first one that differs from one run to the next. -/
def steadyCount : Nat := 5

/-- All fields of a record as one value. Its print is given up to the first field that differs from
one run to the next. -/
def whole (r : Record) : Datum :=
  let entry := fun (f : String × Datum) => Text.quote f.1 ++ ": " ++ f.2.quoted ++ ", "
  let print := "\x7b" ++ String.join ((r.fields.take steadyCount).map entry) ++
    Text.quote "pathname" ++ ": '/"
  .other print print true

end Record

end Telnet.Log
