import Telnet.Limit

/-!
# Readiness

Waiting for the first of several handles that can be read. A handle that need not be waited for is
taken at once. All others are waited for together, in rounds: in each round those that are still
waited for take a step in their order. The first handle that becomes readable ends the wait for the
others, and a wait that fails ends it as well, one turn later. An interrupt by the user ends all of
them at once, whatever they came to. So does the end of the time, which comes between two rounds.
-/

namespace Telnet

structure Handle where
  isPollable : Bool
  /-- The round in which the wait for it ends, if it ends. -/
  after : Option Nat
  /-- How that wait fails, if it fails. -/
  failure : Option Failure
  deriving DecidableEq, Repr

namespace Readiness

/-- The end of a wait: its round, the place of its handle, and how it failed, if it did. -/
structure Ending where
  round : Nat
  place : Nat
  failure : Option Failure
  deriving DecidableEq, Repr

/-- The ends of the waits for some handles, in the order in which they come about. -/
def endings (handles : List Handle) : List Ending :=
  let all := handles.zipIdx.filterMap fun (h, i) =>
    h.after.map fun round => (⟨round, i, h.failure⟩ : Ending)
  all.mergeSort fun a b => decide (a.round ≤ b.round)

/-- A turn: a round and a place in it. -/
abbrev Turn : Type := Nat × Nat

def Turn.before (a b : Turn) : Bool := decide (a.1 < b.1 ∨ (a.1 = b.1 ∧ a.2 < b.2))

/-- What is known while waiting: the handle that was ready first, the failures, the interrupt that
ended everything if there was one, and the turn at which the waits that are left are given up. -/
structure Progress where
  ready : Option Nat
  failures : List Failure
  interrupt : Option Failure
  giveUp : Option Turn
  deriving DecidableEq, Repr

/-- Lets the waits be given up at a turn, if that is not later than what was settled before. -/
def Progress.giveUpAt (p : Progress) (turn : Turn) : Progress :=
  { p with giveUp := match p.giveUp with
      | some settled => some (if turn.before settled then turn else settled)
      | none => some turn }

/-- The progress after the end of a wait. A handle that becomes readable stops every wait that has
started, and all have started after the first round; a failure is noticed in the next round. So a
second handle can become readable in the first round only, where the one before it stays the first;
in a later round nothing that comes behind the first one counts. -/
def Progress.step (p : Progress) (e : Ending) : Progress :=
  if p.giveUp.any fun turn => !Turn.before (e.round, e.place) turn then p
  else match e.failure with
    | none =>
      { p with ready := p.ready.or (some e.place) }.giveUpAt
        (if e.round = 0 then (1, 0) else (e.round, e.place))
    | some (.interrupt details) =>
      { p with interrupt := some (.interrupt details) }.giveUpAt (e.round, e.place)
    | some f => { p with failures := p.failures ++ [f] }.giveUpAt (e.round + 1, e.place)

/-- The progress at the start, where the time ends before a round, if it ends. -/
def Progress.start (deadline : Option Nat) : Progress :=
  ⟨none, [], none, deadline.map fun round => (round, 0)⟩

/-- The round before which the time for waiting ends, if it ends. The first round always takes
place; `more` is how many others do while a limit that leaves some time lasts, all of them if it is
none. -/
def deadline? (limit : Limit) (more : Option Nat) : Option Nat :=
  if !limit.leavesTime then some 1
  else if limit.isReached then more.map (· + 1)
  else none

/-- The place of the first handle that need not be waited for. -/
def alwaysReady? (handles : List Handle) : Option Nat := handles.findIdx? fun h => !h.isPollable

/-- Why a wait for some handles ends without an answer. -/
inductive Unready where
  /-- There cannot be such a limit, or the user interrupted. -/
  | outright (f : Failure)
  /-- Waits failed. -/
  | waits (failures : List Failure)
  deriving DecidableEq, Repr

/-- Waits for the first handle that can be read: its place, none if the time runs out, or the
failures of the waits. Unless it is said how many rounds fit into the time, they take none of it. -/
def poll (handles : List Handle) (limit : Limit) (more : Option Nat := none) :
    Except Unready (Option Nat) :=
  match alwaysReady? handles with
  | some i => .ok (some i)
  | none =>
    match limit.check with
    | .error f => .error (.outright f)
    | .ok () =>
      let p := (endings handles).foldl Progress.step (.start (deadline? limit more))
      match p.interrupt with
      | some f => .error (.outright f)
      | none => if p.failures.isEmpty then .ok p.ready else .error (.waits p.failures)

end Readiness

end Telnet
