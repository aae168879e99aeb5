import Telnet.Text.Digit
import Telnet.Text.Fields
import Telnet.Text.Quoted

/-!
# Options of the command line

The options with their spellings, and what a single argument is taken for. A long option may be cut
short as long as only one option starts with what is left; a value may follow an option in the same
argument, behind an equals sign or directly behind a letter; letters of options without a value may
stand together. An argument that looks like a negative number is none of this, and neither is one
with a blank that starts like no option.
-/

namespace Telnet

inductive CommandOption where
  | help | verbose | timeout | term | logLevel | logFormat | logFile
  deriving DecidableEq, Repr

namespace CommandOption

/-- All spellings with their options, in the order in which they are listed. -/
def spellings : List (String × CommandOption) :=
  [("-h", .help), ("--help", .help), ("-v", .verbose), ("--verbose", .verbose),
    ("-t", .timeout), ("--timeout", .timeout), ("--term", .term), ("--loglevel", .logLevel),
    ("--logfmt", .logFormat), ("--logfile", .logFile)]

def ofSpelling? (s : String) : Option CommandOption := spellings.lookup s

def takesValue : CommandOption → Bool
  | .help | .verbose => false
  | _ => true

/-- An option in messages: all its spellings. -/
def title (o : CommandOption) : String :=
  "/".intercalate ((spellings.filter fun entry => entry.2 = o).map Prod.fst)

end CommandOption

inductive CommandFault where
  /-- Several options start like this argument. -/
  | ambiguous (given : String) (candidates : List String)
  /-- An option has no value. -/
  | noValue (o : CommandOption)
  /-- An option has a value that it does not take. -/
  | ignoredValue (o : CommandOption) (value : String)
  /-- The terminal type is not in ASCII. -/
  | terminalType (value : String)
  | missingHost
  /-- Arguments that are not used. -/
  | unrecognized (words : List String)
  deriving DecidableEq, Repr

def CommandFault.message : CommandFault → String
  | .ambiguous given candidates =>
    "ambiguous option: " ++ given ++ " could match " ++ ", ".intercalate candidates
  | .noValue o => "argument " ++ o.title ++ ": expected one argument"
  | .ignoredValue o value =>
    "argument " ++ o.title ++ ": ignored explicit argument " ++ Text.quote value
  | .terminalType value =>
    "argument " ++ CommandOption.term.title ++ ": terminal type must be ASCII: " ++ Text.quote value
  | .missingHost => "the following arguments are required: host"
  | .unrecognized words => "unrecognized arguments: " ++ " ".intercalate words

/-! ### Arguments one by one -/

inductive Word where
  | plain (s : String)
  /-- Everything behind this one is plain. -/
  | separator
  /-- An option that is not known. -/
  | unknown (s : String)
  /-- An option, whether it is spelled with a single letter, and the value in the same argument. -/
  | option (o : CommandOption) (isShort : Bool) (value : Option (List Char))
  deriving DecidableEq, Repr

namespace Word

def separatorText : String := "--"

/-- Whether a text is a run of at least one digit in decimal notation. -/
def isDigits (text : List Char) : Bool :=
  !text.isEmpty && text.all fun c => (Text.decimalValue? c).isSome

/-- Whether a text is a number with a minus sign in front: digits, or a point with digits behind it.
One line feed may follow. -/
def isNegativeNumber : List Char → Bool
  | '-' :: text =>
    let text := if text.getLast? = some '\n' then text.dropLast else text
    match Text.cut '.' text with
    | (whole, none) => isDigits whole
    | (whole, some fraction) => (whole.isEmpty || isDigits whole) && isDigits fraction
  | _ => false

def isShortSpelling (s : List Char) : Bool := s[1]? ≠ some '-'

/-- The options that an argument may be short for, each with its spelling and the value. -/
def candidates (text : List Char) : List (String × Word) :=
  if isShortSpelling text then
    (CommandOption.spellings.filter fun entry => entry.1.toList = text.take 2).map fun entry =>
      (entry.1, .option entry.2 true (some (text.drop 2)))
  else
    let (name, value) := Text.cut '=' text
    (CommandOption.spellings.filter fun entry => name.isPrefixOf entry.1.toList).map fun entry =>
      (entry.1, .option entry.2 false value)

/-- What an argument with an equals sign is taken for if an option is spelled out in front of it. -/
def spelledOut? (text : List Char) : Option Word :=
  match Text.cut '=' text with
  | (name, some value) =>
    (CommandOption.ofSpelling? (String.ofList name)).map fun o =>
      .option o (isShortSpelling name) (some value)
  | (_, none) => none

/-- What an argument in front of the separator is taken for. -/
def ofText (s : String) : Except CommandFault Word :=
  let text := s.toList
  match text with
  | [] => .ok (.plain s)
  | first :: rest =>
    if first ≠ '-' then .ok (.plain s)
    else match CommandOption.ofSpelling? s with
      | some o => .ok (.option o (isShortSpelling text) none)
      | none =>
        if rest.isEmpty then .ok (.plain s)
        else match spelledOut? text with
          | some word => .ok word
          | none => match candidates text with
            | [(_, word)] => .ok word
            | [] =>
              .ok (if isNegativeNumber text || text.contains ' ' then .plain s else .unknown s)
            | several => .error (.ambiguous s (several.map Prod.fst))

def ofArguments : List String → Except CommandFault (List Word)
  | [] => .ok []
  | s :: rest =>
    if s = separatorText then .ok (.separator :: rest.map .plain)
    else do
      let word ← ofText s
      let words ← ofArguments rest
      .ok (word :: words)

end Word

end Telnet
