import Telnet.Act

/-!
# Scopes

A scope has a body that is begun on entry and concluded on exit, and may have something to release
before that. Releasing takes a limited time, unless it is shielded from that limit: a release that
never ends is given up, and the body is concluded all the same. A scope cannot be entered while it
is open. One whose entry failed stays open until it is left, but then there is no body left to
conclude.
-/

namespace Telnet

inductive Stage where
  | outside
  | inside
  /-- Entering failed. -/
  | broken
  deriving DecidableEq, Repr

/-- The actions of a scope. -/
structure Scope (ε σ α : Type) where
  begin_ : Act ε σ α
  /-- Concludes the body, with the failure that ends it if there is one; the result says whether
  that failure is over. -/
  conclude : Option Failure → Act ε σ Bool
  release : Option (Act ε σ Unit)
  /-- Whether the release is waited for even if it never ends. -/
  isShielded : Bool

namespace Scope

variable {ε σ α : Type}

/-- An action on what a scope works on. -/
def within (x : Act ε σ α) : Act ε (Stage × σ) α := .on Prod.snd (fun s t => (s.1, t)) x

/-- An action that is given up if it never ends. -/
def inTime (x : Act ε σ Unit) : Act ε σ Unit :=
  tryCatch x fun
    | .stalled => pure ()
    | f => throw f

def move (stage : Stage) : Act ε (Stage × σ) Unit := modify fun s => (stage, s.2)

def enter (scope : Scope ε σ α) : Act ε (Stage × σ) α := do
  if (← get).1 = .outside then
    move .broken
    let a ← within scope.begin_
    move .inside
    return a
  else throw (.usage .alreadyEntered)

/-- Leaves a scope, because of a failure if there is one. Something to release is released first. -/
def leave (scope : Scope ε σ α) (failure : Option Failure) : Act ε (Stage × σ) Bool := do
  let stage := (← get).1
  move .outside
  match scope.release with
  | some release => within (if scope.isShielded then release else inTime release)
  | none => pure ()
  match stage, failure with
  | .outside, _ => throw .absentPart
  | .inside, _ => within (scope.conclude failure)
  | .broken, none => return false
  | .broken, some _ => throw (.usage .bodyOver)

end Scope

end Telnet
