import Telnet.Act
import Telnet.Event
import Telnet.Text.Caret

/-!
# The console

The local side of a session: lines come from standard input and bytes go to the display. If the
input is a terminal, its mode is saved when the console is entered and restored when it is left, so
a switch of the echo does not outlive the session. A line with a control character that means the
end, and the end of the input, raise a flag that is never lowered again.
-/

namespace Telnet

inductive InputKind where
  | pipe
  /-- A file can always be read and is not waited for. -/
  | file
  | terminal
  deriving DecidableEq, Repr

def modeLength : Nat := 7

def localFlagsPlace : Nat := 3

def echoFlag : Int := 8

/-- The byte that a user types to end a session. -/
def endOfTextByte : UInt8 := 0x03

/-- The byte that a user types to end the input. -/
def endOfTransmissionByte : UInt8 := 0x04

def inputNumber : Nat := 0

def withEcho (flags : Int) (enabled : Bool) : Int :=
  if decide (flags / echoFlag % 2 = 1) = enabled then flags
  else if enabled then flags + echoFlag
  else flags - echoFlag

/-- A console with what is still to be read. -/
structure Console where
  kind : InputKind
  mode : Mode
  input : Bytes
  /-- Why nothing can be displayed. -/
  displayFailure : Option Failure
  savedMode : Option Mode
  echo : Bool
  endOfText : Bool
  endOfTransmission : Bool
  deriving DecidableEq, Repr

namespace Console

/-- The mode of a terminal unless another one is known: only the echo is on. -/
def standardMode : Mode :=
  [.number 0, .number 0, .number 0, .number echoFlag, .number 15, .number 15, .characters []]

def fresh (kind : InputKind) (mode : Mode) (input : Bytes) (displayFailure : Option Failure) :
    Console :=
  ⟨kind, mode, input, displayFailure, none, true, false, false⟩

def note (site : Log.Site) (message : Log.Message) : Act Effect Console Unit :=
  .emit (.debug Log.consoleLogger site message)

/-- Whether the console has to be waited for. -/
def isPollable (c : Console) : Bool := c.kind ≠ .file

def isCancelled (c : Console) : Bool := c.endOfText || c.endOfTransmission

/-- Enters the console: the mode of a terminal is saved. -/
def enter : Act Effect Console Unit := do
  let c ← get
  if c.kind = .terminal then
    if c.mode.length = modeLength then set { c with savedMode := some c.mode }
    else throw .wrongShape

/-- Leaves the console: a saved mode is restored, once. -/
def leave : Act Effect Console Unit := do
  let c ← get
  match c.savedMode with
  | some mode => do
    .emit (.modeSet .afterFlush mode)
    set { c with mode := mode, savedMode := none }
  | none => pure ()

/-- The flags that an item of a terminal mode holds. -/
def flags? : ModeItem → Option Int
  | .number n => some n
  | .characters _ => none
  | .other d => d.integer?

def switchEcho (mode : Mode) (enabled : Bool) : Except Failure Mode :=
  match mode[localFlagsPlace]? with
  | none => .error .outOfRange
  | some item => match flags? item with
    | some flags => .ok (mode.set localFlagsPlace (.number (withEcho flags enabled)))
    | none => .error .wrongShape

/-- Switches the local echo; a terminal is told at once. -/
def setEcho (enabled : Bool) : Act Effect Console Unit := do
  note .echoSwitched [.words "local echo ", .plain (.text (if enabled then "on" else "off"))]
  modify fun c => { c with echo := enabled }
  let c ← get
  if c.kind = .terminal then
    let mode ← .ofExcept (switchEcho c.mode enabled)
    .emit (.modeSet .now mode)
    set { c with mode := mode }

def interrupt (c : Console) : Console := { c with endOfText := true }

def noteControl (site : Log.Site) (b : UInt8) : Act Effect Console Unit :=
  note site [.plain (.text (String.ofList (Text.caret (Char.ofNat b.toNat)))), .words " on input"]

/-- Reads one line. The line is empty if it ends the session. -/
def readLine : Act Effect Console Bytes := do
  let c ← get
  let (line, rest) := Bytes.nextLine c.input
  set { c with input := rest }
  if line.isEmpty then
    modify fun c => { c with endOfTransmission := true }
    return []
  else if line.contains endOfTextByte then
    noteControl .endOfText endOfTextByte
    modify fun c => { c with endOfText := true }
    return []
  else if line.contains endOfTransmissionByte then
    noteControl .endOfTransmission endOfTransmissionByte
    modify fun c => { c with endOfTransmission := true }
    return []
  else return line

/-- Writes bytes to the display at once; to write nothing does nothing. -/
def display (bytes : Bytes) : Act Effect Console Unit := do
  if !bytes.isEmpty then
    match (← get).displayFailure with
    | some f => throw f
    | none => do
      .emit (.displayed bytes)
      .emit .flushed

end Console

end Telnet
