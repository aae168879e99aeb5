import Telnet.Decimal.Shortest
import Telnet.Text.Quoted

/-!
# Loose values

What a failure was given to report, what a record of the log mentions, and what a mapping holds:
nothing, a truth value, a number, a text, and in a mapping also lists and mappings of values. Each
has a plain print, and a quoted form that it takes inside brackets.
-/

namespace Telnet

inductive Datum where
  | absent
  | truth (b : Bool)
  | number (n : Int)
  | decimal (x : Decimal.Binary64)
  | text (s : String)
  /-- A value of another kind, which is known by its plain print, by its quoted form, and by whether
  there is something in it. -/
  | other (plain quoted : String) (isTelling : Bool)
  deriving DecidableEq, Repr

namespace Datum

def plain : Datum → String
  | .absent => "None"
  | .truth true => "True"
  | .truth false => "False"
  | .number n => String.ofList (Text.signedDecimal n)
  | .decimal x => x.text
  | .text s => s
  | .other plain _ _ => plain

def quoted : Datum → String
  | .text s => Text.quote s
  | .other _ quoted _ => quoted
  | d => d.plain

/-- Whether there is something to tell: neither nothing nor false, zero or the empty text. -/
def isTelling : Datum → Bool
  | .absent => false
  | .truth b => b
  | .number n => n != 0
  | .decimal x => !x.isZero
  | .text s => s != ""
  | .other _ _ isTelling => isTelling

/-- The whole number that a value is, if it is one; truth is one. -/
def integer? : Datum → Option Int
  | .number n => some n
  | .truth b => some (if b then 1 else 0)
  | _ => none

/-- The whole number that a value is equal to, if it is equal to one. -/
def number? : Datum → Option Int
  | .decimal x => x.whole?
  | d => d.integer?

def tuple (ds : List Datum) : String :=
  match ds with
  | [d] => "(" ++ d.quoted ++ ",)"
  | _ => "(" ++ ", ".intercalate (ds.map quoted) ++ ")"

/-- The text of a report: a single detail in plain print, several as a tuple. -/
def report : List Datum → String
  | [] => ""
  | [d] => d.plain
  | ds => tuple ds

/-- Whether a value is a number of either kind, or a truth value. -/
def isNumeric : Datum → Bool
  | .decimal _ => true
  | d => d.integer?.isSome

/-- Whether two values are the same key: numbers by their value, all else by the quoted form. An
undefined number is not the same as itself. -/
def isSameKey (a b : Datum) : Bool :=
  match a.number?, b.number? with
  | some m, some n => m == n
  | none, none => a ≠ .decimal .undefined && a.quoted == b.quoted
  | _, _ => false

end Datum

inductive Value where
  | single (d : Datum)
  | list (items : List Value)
  | mapping (entries : List (String × Value))

namespace Value

mutual

def quoted : Value → String
  | .single d => d.quoted
  | .list items => "[" ++ ", ".intercalate (quotedItems items) ++ "]"
  | .mapping entries => "\x7b" ++ ", ".intercalate (quotedEntries entries) ++ "\x7d"

/-- The values of a list, each as it is written inside brackets. -/
def quotedItems : List Value → List String
  | [] => []
  | item :: rest => item.quoted :: quotedItems rest

/-- The entries of a mapping: each key with its value behind a colon. -/
def quotedEntries : List (String × Value) → List String
  | [] => []
  | (key, value) :: rest => (Text.quote key ++ ": " ++ value.quoted) :: quotedEntries rest

end

def datum : Value → Datum
  | .single d => d
  | .list items => .other (quoted (.list items)) (quoted (.list items)) !items.isEmpty
  | .mapping entries =>
    .other (quoted (.mapping entries)) (quoted (.mapping entries)) !entries.isEmpty

def plain (v : Value) : String := v.datum.plain

end Value

/-- Keys with their values, in the order in which the keys came first. -/
abbrev Mapping : Type := List (Datum × Value)

namespace Mapping

/-- Gives a key a value: in place if the key is there, at the end otherwise. -/
def insert (m : Mapping) (key : Datum) (value : Value) : Mapping :=
  if m.any fun entry => entry.1.isSameKey key then
    m.map fun entry => if entry.1.isSameKey key then (entry.1, value) else entry
  else m ++ [(key, value)]

/-- The mapping of a list of pairs; of several values for one key the last counts. -/
def ofPairs (pairs : List (Datum × Value)) : Mapping :=
  pairs.foldl (fun m entry => m.insert entry.1 entry.2) []

/-- The mapping on one line: key, equals sign and value, separated by spaces. -/
def text (m : Mapping) : String :=
  " ".intercalate (m.map fun entry => entry.1.plain ++ "=" ++ entry.2.plain)

end Mapping

end Telnet
