import Telnet.Log.Field
import Telnet.Log.Layout
import Telnet.Text.Digit
import Telnet.Text.Word

/-!
# Log formats

A format is a text with references to the fields of a record. A reference is a percent sign, a name
in round brackets, flags, a least width, a precision and a letter for the kind of notation. A format
is accepted if at least one reference in it is well formed; the empty format stands for the message
alone.

A reference takes the field that it names, and one without a name takes what is left to take: the
record as a whole at first, afterwards a field that was named and is not used yet. A star takes a
width or a precision in the same way. Two percent signs print one.
-/

namespace Telnet.Log

/-! ### References -/

inductive Measure where
  | fixed (n : Nat)
  /-- It is a value that is left to take. -/
  | taken
  deriving DecidableEq, Repr

structure Reference where
  name : Option String
  flags : List Char
  width : Option Measure
  precision : Option Measure
  kind : Char

inductive Piece where
  | literal (c : Char)
  | reference (r : Reference)

/-- What stands in front of a closing bracket, and what follows it. `depth` brackets are open
inside. -/
def bracketed? : Nat → List Char → Option (List Char × List Char)
  | _, [] => none
  | 0, ')' :: rest => some ([], rest)
  | depth + 1, ')' :: rest => (bracketed? depth rest).map fun (s, rest) => (')' :: s, rest)
  | depth, c :: rest =>
    (bracketed? (if c = '(' then depth + 1 else depth) rest).map fun (s, rest) => (c :: s, rest)

def name? : List Char → Option (Option String × List Char)
  | '(' :: text => (bracketed? 0 text).map fun (s, rest) => (some (String.ofList s), rest)
  | text => some (none, text)

/-- The width or precision at the start of a text, if there is one, and what follows. -/
def measure : List Char → Option Measure × List Char
  | '*' :: rest => (some .taken, rest)
  | text =>
    match text.takeWhile Char.isDigit with
    | [] => (none, text)
    | ds => (some (.fixed (Nat.ofDigitChars 10 ds 0)), text.dropWhile Char.isDigit)

/-- The precision behind a point, which is zero if no number follows, and what follows. -/
def precision : List Char → Option Measure × List Char
  | '.' :: text =>
    let (p, rest) := measure text
    (some (p.getD (.fixed 0)), rest)
  | text => (none, text)

/-- A text without a mark of size at its start, which says nothing here. -/
def skipSize : List Char → List Char
  | c :: rest => if ['h', 'l', 'L'].contains c then rest else c :: rest
  | [] => []

/-- The reference that follows a percent sign, and what follows it. -/
def reference? (text : List Char) : Option (Reference × List Char) := do
  let (name, text) ← name? text
  let flags := text.takeWhile Layout.isFlag
  let (width, text) := measure (text.dropWhile Layout.isFlag)
  let (precision, text) := precision text
  match skipSize text with
  | kind :: rest => some (⟨name, flags, width, precision, kind⟩, rest)
  | [] => none

/-- The parts of a format, if all of its references are complete. `fuel` is at least the number of
characters. -/
def piecesWithin? : Nat → List Char → Option (List Piece)
  | _, [] => some []
  | 0, _ :: _ => none
  | fuel + 1, '%' :: '%' :: rest => (piecesWithin? fuel rest).map (.literal '%' :: ·)
  | fuel + 1, '%' :: rest => do
    let (r, rest) ← reference? rest
    let others ← piecesWithin? fuel rest
    some (.reference r :: others)
  | fuel + 1, c :: rest => (piecesWithin? fuel rest).map (.literal c :: ·)

def pieces? (format : String) : Option (List Piece) :=
  piecesWithin? format.length format.toList

/-! ### Accepting a format -/

def kinds : List Char := "diouxefgcrsa%".toList

/-- Whether a character is a kind of notation in either case. Three letters outside ASCII are cases
of the letters i and s. -/
def isKind (c : Char) : Bool := kinds.contains c.toLower || ['ı', 'İ', 'ſ'].contains c

def isAnyDigit (c : Char) : Bool := (Text.decimalValue? c).isSome

/-- What follows a width or precision: a star, some digits or nothing. -/
def skipCount : List Char → List Char
  | '*' :: rest => rest
  | rest => rest.dropWhile isAnyDigit

/-- Whether a text starts with flags, width, precision and a known kind of notation in either case.
-/
def startsWithLayout (text : List Char) : Bool :=
  let rest := skipCount (text.dropWhile Layout.isFlag)
  let rest := match rest with
    | '.' :: more => if skipCount more = more then rest else skipCount more
    | _ => rest
  match rest with
  | kind :: _ => isKind kind
  | [] => false

/-- Whether a text starts with a well formed reference. -/
def startsWithReference : List Char → Bool
  | '%' :: '(' :: rest =>
    match rest.dropWhile Text.isWord with
    | ')' :: behind => (rest.head?.any Text.isWord) && startsWithLayout behind
    | _ => false
  | _ => false

/-- Whether a well formed reference starts somewhere in a text. -/
def hasReference : List Char → Bool
  | [] => false
  | c :: rest => startsWithReference (c :: rest) || hasReference rest

/-- The format that is used where the empty one is given. -/
def messageAlone : String := "%(message)s"

/-- The format to use, if it is accepted. -/
def acceptFormat (format : String) : Except Failure String :=
  if format = "" then .ok messageAlone
  else if hasReference format.toList then .ok format
  else .error (.value (.logFormat format))

/-! ### Printing a record -/

def greatestMeasure : Nat := 2147483647

/-- A width or precision with what is left to take, and what is left then. -/
def measured? (left : Option Datum) : Option Measure → Option (Option Nat × Option Datum)
  | none => some (none, left)
  | some (.fixed n) => if n ≤ greatestMeasure then some (some n, left) else none
  | some .taken => do
    let n ← (← left).integer?
    if n.natAbs ≤ greatestMeasure then some (some n.natAbs, none) else none

/-- What a reference prints with what is left to take, and what is left then. -/
def Reference.text? (ref : Reference) (r : Record) (left : Option Datum) :
    Option (List Char × Option Datum) := do
  let left ← match ref.name with
    | some name => (r.field? name).map some
    | none => some left
  let (width, left) ← measured? left ref.width
  let (precision, left) ← measured? left ref.precision
  let layout : Layout := ⟨ref.flags, width.getD 0, precision, ref.kind⟩
  some (← layout.text? (← left), none)

/-- What the parts of a format print with what is left to take. -/
def print? (r : Record) : Option Datum → List Piece → Option (List Char)
  | _, [] => some []
  | left, .literal c :: rest => (print? r left rest).map (c :: ·)
  | left, .reference ref :: rest => do
    let (text, left) ← ref.text? r left
    some (text ++ (← print? r left rest))

/-- The line for a record, if the format can be applied to it. -/
def line? (format : String) (r : Record) : Option String := do
  let text ← print? r (some r.whole) (← pieces? format)
  some (String.ofList (text ++ ['\n']))

end Telnet.Log
