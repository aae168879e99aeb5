import Telnet.Session.Sides

/-!
# Sides that follow a script

A user who types given lines, and a remote host whose chunks and statuses are given, as is the way
in which each attempt to connect ends. When the lines are used up the input is at its end; when the
rest of the script is used up, attempts to connect succeed, nothing arrives, and the remote host is
there.
-/

namespace Telnet

inductive Attempt where
  | succeeds
  | hangs
  | fails (f : Failure)
  deriving DecidableEq, Repr

inductive Finding where
  | chunk (bytes : Bytes)
  | nothing
  | failure (f : Failure)
  deriving DecidableEq, Repr

/-- Two sides with the rest of their script. -/
structure Script where
  lines : List Bytes
  openFailure : Option Failure
  attempts : List Attempt
  chunkSize : Nat
  findings : List Finding
  statuses : List (Option Status)
  writeFailure : Option Failure
  interrupted : Bool
  endOfTransmission : Bool
  deriving DecidableEq, Repr

def Attempt.outcome : Attempt → Except Failure Unit
  | .succeeds => .ok ()
  | .hangs => .error .stalled
  | .fails f => .error f

def Finding.outcome : Finding → Except Failure (Option Bytes)
  | .chunk bytes => .ok (some bytes)
  | .nothing => .ok none
  | .failure f => .error f

/-- A failure that may be scripted. -/
def Script.failing : Option Failure → Except Failure Unit
  | none => .ok ()
  | some f => .error f

namespace Script

/-- The next line; at the end of the script the empty one, which ends the session. -/
def readLine : Act Effect Script Bytes := do
  let s ← get
  match s.lines with
  | [] => do
    set { s with endOfTransmission := true }
    return []
  | line :: rest => do
    set { s with lines := rest }
    return line

def connect : Act Effect Script Unit := do
  let s ← get
  match s.attempts with
  | [] => pure ()
  | a :: rest => do
    set { s with attempts := rest }
    .ofExcept (Attempt.outcome a)

def read : Act Effect Script (Option Bytes) := do
  let s ← get
  match s.findings with
  | [] => return none
  | f :: rest => do
    set { s with findings := rest }
    .ofExcept (Finding.outcome f)

def status : Act Effect Script (Option Status) := do
  let s ← get
  match s.statuses with
  | [] => return some .quiet
  | status :: rest => do
    set { s with statuses := rest }
    return status

instance : Sides Script where
  isCancelled s := s.interrupted || s.endOfTransmission
  interrupt := modify fun s => { s with interrupted := true }
  readLine := readLine
  setEcho _ := pure ()
  display _ := pure ()
  openFor _ := do .ofExcept (failing (← get).openFailure)
  connect _ _ := connect
  chunk s := s.chunkSize
  read _ := read
  write _ := do .ofExcept (failing (← get).writeFailure)
  status := status
  close := pure ()
  sleep seconds := .emit (.sleep seconds)

end Script

end Telnet
