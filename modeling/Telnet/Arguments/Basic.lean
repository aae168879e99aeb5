import Telnet.Arguments.Option
import Telnet.Decimal.Reader
import Telnet.Decimal.Shortest
import Telnet.Negotiation.Proposal
import Telnet.Limit

/-!
# The command line

A command line asks for help or names a target and may set a time limit, a terminal type and what is
logged. The last value of an option counts; a time limit that is no number is replaced by the
standard one, and the verbose option takes precedence over a log level.
-/

namespace Telnet

/-- What an option is set to. -/
inductive Setting (α : Type) where
  | unset
  | value (a : α)
  /-- The separator stood in place of the value. -/
  | empty
  deriving DecidableEq, Repr

namespace Setting

variable {α : Type}

def toValue (text : α → String) : Setting α → Value
  | .unset => .single .absent
  | .value a => .single (.text (text a))
  | .empty => .list []

/-- The setting that a text in the place of a value makes. -/
def ofText (read : String → α) (text : String) : Setting α :=
  if text = Word.separatorText then .empty else .value (read text)

end Setting

/-- What a command line sets. -/
structure Arguments where
  target : String
  timeout : Setting Decimal.Binary64
  term : Setting String
  logLevel : Setting String
  logFile : Setting String
  logFormat : Setting String
  deriving DecidableEq, Repr

namespace Arguments

def standardLevel : String := "warn"

def verboseLevel : String := "debug"

def standardFormat : String :=
  "%(asctime)s %(levelname)s %(filename)s:%(lineno)d %(message)s"

def helpText : String := String.join <| List.map (fun line => line ++ "\n")
  ["usage: tinytelnet [-h] [-v] [-t SECONDS] [--term TERM] [--loglevel LOGLEVEL]",
    "                  [--logfmt LOGFMT] [--logfile LOGFILE]",
    "                  host",
    "",
    "Minimal telnet client",
    "",
    "positional arguments:",
    "  host                  host[:port], the port defaults to 23",
    "",
    "options:",
    "  -h, --help            show this help message and exit",
    "  -v, --verbose         log connection and negotiation events (default: False)",
    "  -t SECONDS, --timeout SECONDS",
    "                        connection timeout (default: 5.0)",
    "  --term TERM           terminal type (default: XTERM-256COLOR)",
    "  --loglevel LOGLEVEL   log level (default: warn)",
    "  --logfmt LOGFMT       log format (default: %(asctime)s %(levelname)s",
    "                        %(filename)s:%(lineno)d %(message)s)",
    "  --logfile LOGFILE     filepath (default: None)"]

/-! ### Reading a command line -/

/-- What is known of a command line in the middle of it. -/
structure Draft where
  target : Option String
  verbose : Bool
  settings : Arguments
  unused : List String
  deriving DecidableEq, Repr

/-- What is known at the start: the standard settings. -/
def Draft.start : Draft :=
  ⟨none, false,
    { target := ""
      timeout := .value Limit.standardSeconds
      term := .value TerminalType.standard.text
      logLevel := .value standardLevel
      logFile := .unset
      logFormat := .value standardFormat }, []⟩

inductive Wish where
  | help
  | session (arguments : Arguments)
  deriving DecidableEq, Repr

def readTimeout (text : String) : Decimal.Binary64 :=
  (Decimal.Binary64.ofText? text).getD Limit.standardSeconds

/-- Sets an option to a text in the place of its value. -/
def Draft.setOption (d : Draft) (o : CommandOption) (text : String) : Except CommandFault Draft :=
  let s := d.settings
  match o with
  | .help | .verbose => .ok d
  | .timeout => .ok { d with settings := { s with timeout := .ofText readTimeout text } }
  | .term =>
    if text.toList.all fun c => c.toNat < 128 then
      .ok { d with settings := { s with term := .ofText id text } }
    else .error (.terminalType text)
  | .logLevel => .ok { d with settings := { s with logLevel := .ofText id text } }
  | .logFormat => .ok { d with settings := { s with logFormat := .ofText id text } }
  | .logFile => .ok { d with settings := { s with logFile := .ofText id text } }

/-- What one argument with options in it stands for. -/
structure Chain where
  /-- Options without values. -/
  before : List CommandOption
  last : CommandOption
  /-- The value of the last option in the same argument. -/
  value : Option String
  deriving DecidableEq, Repr

/-- What an option stands for with these characters behind it: they are its value if it takes one,
and letters of further options if it is a letter itself. -/
def letters : CommandOption → Bool → List Char → Except CommandFault Chain
  | o, _, [] => if o.takesValue then .ok ⟨[], o, some ""⟩ else .error (.ignoredValue o "")
  | o, isShort, c :: rest =>
    let value := String.ofList (c :: rest)
    if o.takesValue then .ok ⟨[], o, some value⟩
    else match CommandOption.ofSpelling? (String.ofList ['-', c]) with
      | none => .error (.ignoredValue o value)
      | some next =>
        if !isShort then .error (.ignoredValue o value)
        else if rest.isEmpty then .ok ⟨[o], next, none⟩
        else (letters next true rest).map fun chain => { chain with before := o :: chain.before }

/-- What an option stands for, with a value in the same argument if there is one. -/
def chain (o : CommandOption) (isShort : Bool) : Option (List Char) → Except CommandFault Chain
  | none => .ok ⟨[], o, none⟩
  | some value => letters o isShort value

/-- What is known after some options without values; one of them may ask for help. -/
def Draft.mark (d : Draft) (options : List CommandOption) : Option Draft :=
  if options.contains .help then none
  else some { d with verbose := d.verbose || options.contains .verbose }

def Draft.finish (d : Draft) : Except CommandFault Wish :=
  match d.target with
  | none => .error .missingHost
  | some target =>
    if d.unused.isEmpty then
      let s := { d.settings with target := target }
      .ok (.session (if d.verbose then { s with logLevel := .value verboseLevel } else s))
    else .error (.unrecognized d.unused)

inductive Progress where
  /-- Help is asked for. -/
  | help
  | next (d : Draft)
  /-- The next argument is used up as well. -/
  | afterNext (d : Draft)

/-- What follows from an argument with options in it, given the next argument if that is plain. -/
def Draft.accept (d : Draft) (chain : Chain) (next : Option String) :
    Except CommandFault Progress :=
  match chain.last.takesValue, chain.value, next with
  | false, _, _ =>
    .ok (match d.mark (chain.before ++ [chain.last]) with
      | none => .help
      | some d => .next d)
  | true, some text, _ =>
    match d.mark chain.before with
    | none => .ok .help
    | some d => (d.setOption chain.last text).map .next
  | true, none, some text =>
    match d.mark chain.before with
    | none => .ok .help
    | some d => (d.setOption chain.last text).map .afterNext
  | true, none, none => .error (.noValue chain.last)

/-- What is known after a plain argument: it is the target if there is none yet. -/
def Draft.take (d : Draft) (s : String) : Draft :=
  match d.target with
  | none => { d with target := some s }
  | some _ => { d with unused := d.unused ++ [s] }

/-- Reads the rest of a command line. A separator in front of the target or directly behind it
belongs to it; any other one is not used. -/
def Draft.read : Draft → List Word → Except CommandFault Wish
  | d, [] => d.finish
  | d, .unknown s :: rest => read { d with unused := d.unused ++ [s] } rest
  | d, .plain s :: .separator :: rest =>
    read (if d.target.isNone then d.take s else (d.take s).take Word.separatorText) rest
  | d, .plain s :: rest => read (d.take s) rest
  | d, .separator :: .plain s :: rest =>
    read (if d.target.isNone then d.take s else (d.take Word.separatorText).take s) rest
  | d, .separator :: rest => read { d with unused := d.unused ++ [Word.separatorText] } rest
  | d, .option o isShort value :: .plain s :: rest =>
    match (chain o isShort value).bind fun c => d.accept c (some s) with
    | .error e => .error e
    | .ok .help => .ok .help
    | .ok (.next d) => read d (.plain s :: rest)
    | .ok (.afterNext d) => read d rest
  | d, .option o isShort value :: rest =>
    match (chain o isShort value).bind fun c => d.accept c none with
    | .error e => .error e
    | .ok .help => .ok .help
    | .ok (.next d) | .ok (.afterNext d) => read d rest

def ofCommandLine (arguments : List String) : Except CommandFault Wish := do
  Draft.start.read (← Word.ofArguments arguments)

end Arguments

end Telnet
