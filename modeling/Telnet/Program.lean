import Telnet.Arguments.Basic
import Telnet.Client
import Telnet.Log.Basic
import Telnet.Log.File

/-!
# The program

From a command line to an exit code. The command line sets up the log and calls the client; an error
of the client is reported and decides the exit code, an interrupt before the session ends the
program well, and any other failure is passed on.
-/

namespace Telnet

/-- What the program finds around it. -/
structure Environment where
  names : NameService
  polls : List Poll
  surroundings : Surroundings
  files : Log.Files
  /-- What is written about a record to which the format of the log cannot be applied. -/
  complaint : Log.Record → String

structure Ended where
  /-- The exit code, or the failure that was passed on. -/
  exit : Except Failure ExitCode
  /-- Whether the program was left at once and not by a return. -/
  leftAtOnce : Bool
  output : Bytes
  errors : String
  /-- Everything that happened, with the records of the log and what was displayed. -/
  events : List Event

namespace Program

def encode (text : String) : Bytes := text.toUTF8.toList

def errorLine (message : String) : String := "Error: " ++ message ++ "\n"

/-- The settings of a command line, as they are logged. -/
def configuration (a : Arguments) : Mapping :=
  [(.text "target", .single (.text a.target)),
    (.text "timeout", a.timeout.toValue Decimal.Binary64.text),
    (.text "term", a.term.toValue id),
    (.text "loglevel", a.logLevel.toValue id),
    (.text "logfile", a.logFile.toValue id),
    (.text "logfmt", a.logFormat.toValue id)]

/-- The path of the file that the log goes to, if it goes to one. -/
def logPath? (a : Arguments) : Option String :=
  match a.logFile with
  | .value path => if path = "" then none else some path
  | _ => none

def logSettings (a : Arguments) (files : Log.Files) : Except Failure Log.Settings :=
  let opened := match logPath? a with
    | some path => files.append path
    | none => .ok ()
  match a.logLevel, a.logFormat with
  | .value level, .value format => Log.Settings.ofNames level opened format
  | .value level, _ => Log.Settings.ofNames level opened ""
  | _, _ => .error .absentPart

def call (a : Arguments) (e : Environment) : Call where
  target := a.target
  limit := match a.timeout with
    | .value x => .seconds x
    | _ => .malformed
  term := match a.term with
    | .value text => TerminalType.ofText text
    | _ => .error .absentPart
  resolver := .service e.names
  polls := e.polls
  routesInterrupts := true

def records (events : List Event) : List Log.Record :=
  events.filterMap fun
    | .effect (.logged r) => some r
    | _ => none

def displayed (events : List Event) : Bytes :=
  events.flatMap fun
    | .effect (.displayed b) => b
    | _ => []

/-- Reports an error of the client. One without a message cannot be reported. -/
def report (error : ClientError) : Except Failure ExitCode × String :=
  match error.message with
  | .ok message => (.ok error.exitCode, errorLine message)
  | .error unspoken => (.error (.ofUnspoken unspoken), "")

/-- The exit code for an outcome, and what is reported about it. -/
def conclude {α : Type} : Except Failure α → Except Failure ExitCode × String
  | .ok _ => (.ok .success, "")
  | .error (.client e) => report e
  | .error (.interrupt _) => (.ok .success, "\n")
  | .error f => (.error f, "")

/-- Logs the settings and answers the call that a command line makes. -/
def session (a : Arguments) (e : Environment) : Act Event Surroundings Session := do
  .emit (.effect (.debug Log.clientLogger .settings
    [.words ("Client configuration: " ++ (configuration a).text)]))
  (call a e).runInConsole

def runSession (a : Arguments) (e : Environment) : Ended :=
  match logSettings a e.files with
  | .error f => ⟨.error f, false, [], "", []⟩
  | .ok settings =>
    let ran := (session a e).run e.surroundings
    let (exit, line) := conclude ran.outcome
    let log := settings.errors e.complaint (logPath? a).isSome (records ran.events)
    ⟨exit, false, displayed ran.events, log ++ line, ran.events⟩

def run (arguments : List String) (e : Environment) : Ended :=
  match Arguments.ofCommandLine arguments with
  | .error fault =>
    let (exit, line) := report (.usage [.text fault.message])
    ⟨exit, false, [], line, []⟩
  | .ok .help => ⟨.ok .success, true, encode Arguments.helpText, "", []⟩
  | .ok (.session a) => runSession a e

end Program

end Telnet
