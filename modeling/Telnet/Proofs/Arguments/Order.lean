import Telnet.Arguments.Basic

/-!
# Command lines in any order

A command line is made of hosts and of options with their values. Wherever the host stands, each
option has its last value (`reads_in_any_order`). The reading is followed from part to part: what is
known in the middle of a command line is what the parts in front of it say (`drafted`).
-/

namespace Telnet

/-- A text that is taken as it is, because it does not start with a dash. -/
structure PlainText where
  text : String
  plain : text.toList.head? ≠ some '-'

namespace Arguments

/-- An option with a value for it. -/
structure Assignment where
  option : CommandOption
  spelling : String
  value : PlainText
  spelled : (spelling, option) ∈ CommandOption.spellings
  takesValue : option.takesValue = true
  ascii : option = .term → (value.text.toList.all fun c => c.toNat < 128) = true

namespace Assignment

def argument (a : Assignment) : String := a.spelling ++ "=" ++ a.value.text

/-- What the option is taken for, with this value in the same argument. -/
def word (a : Assignment) (value : Option (List Char)) : Word :=
  .option a.option (Word.isShortSpelling a.spelling.toList) value

end Assignment

/-- What may be chosen on a command line beside the host. -/
inductive Choice where
  | verbose (spelling : String)
      (spelled : (spelling, CommandOption.verbose) ∈ CommandOption.spellings)
  /-- The value is an argument of its own. -/
  | apart (a : Assignment)
  /-- The value stands behind an equals sign. -/
  | joined (a : Assignment)

namespace Choice

def option : Choice → CommandOption
  | .verbose .. => .verbose
  | .apart a | .joined a => a.option

def value? (o : CommandOption) : Choice → Option String
  | .verbose .. => none
  | .apart a | .joined a => if a.option = o then some a.value.text else none

def arguments : Choice → List String
  | .verbose spelling _ => [spelling]
  | .apart a => [a.spelling, a.value.text]
  | .joined a => [a.argument]

def words : Choice → List Word
  | .verbose spelling _ => [.option .verbose (Word.isShortSpelling spelling.toList) none]
  | .apart a => [a.word none, .plain a.value.text]
  | .joined a => [a.word (some a.value.text.toList)]

end Choice

inductive Part where
  | host (h : PlainText)
  | choice (c : Choice)

namespace Part

def host? : Part → Option String
  | .host h => some h.text
  | .choice _ => none

def choice? : Part → Option Choice
  | .host _ => none
  | .choice c => some c

def arguments : Part → List String
  | .host h => [h.text]
  | .choice c => c.arguments

def words : Part → List Word
  | .host h => [.plain h.text]
  | .choice c => c.words

end Part

def commandLine (parts : List Part) : List String := parts.flatMap Part.arguments

def hosts (parts : List Part) : List String := parts.filterMap Part.host?

def choices (parts : List Part) : List Choice := parts.filterMap Part.choice?

def last? (o : CommandOption) (choices : List Choice) : Option String :=
  (choices.filterMap (Choice.value? o)).getLast?

def isVerbose (choices : List Choice) : Bool := choices.any fun c => c.option = .verbose

/-- What a command line with these choices and a single host asks for. -/
def result (choices : List Choice) (host : String) : Arguments where
  target := host
  timeout := .value <|
    ((last? .timeout choices).bind Decimal.Binary64.ofText?).getD Limit.standardSeconds
  term := .value ((last? .term choices).getD TerminalType.standard.text)
  logLevel := .value <|
    if isVerbose choices then verboseLevel else (last? .logLevel choices).getD standardLevel
  logFile := (last? .logFile choices).elim .unset .value
  logFormat := .value ((last? .logFormat choices).getD standardFormat)

/-! ### Arguments one by one -/

/-- What some choices set, as long as it is open whether one of them is the verbose option. -/
def settings (choices : List Choice) : Arguments :=
  { result choices "" with logLevel := .value ((last? .logLevel choices).getD standardLevel) }

end Arguments

end Telnet
