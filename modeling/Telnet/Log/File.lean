import Telnet.Failure.Basic
import Telnet.Text.Fields

/-!
# Log files

A log may go to a file, which is opened for appending before anything is logged. A path is taken
without its empty parts and its dots, and it goes on from the working directory unless it begins at
the root. It can be opened unless it is that of a directory, leads through a file, leads through
what is not there, or would make a file where none can be made.
-/

namespace Telnet.Log

/-- What the names on a path lead to. -/
inductive Entry where
  /-- A directory, and the error number of making a file in it if none can be made. -/
  | directory (making : Option Int)
  /-- A file, and the error number of opening it if it cannot be opened. -/
  | file (opening : Option Int)
  /-- A file that is made up while it is read, so that it has no end to append to. -/
  | account
  deriving DecidableEq, Repr

/-- The files around the client. -/
structure Files where
  /-- What is there, by the names from the root. -/
  entries : List (List String × Entry)
  /-- The names of the working directory. -/
  working : List String
  deriving DecidableEq, Repr

inductive Refusal where
  | numbered (n : Int)
  /-- There is no end to append to. -/
  | endless
  deriving DecidableEq, Repr

namespace Files

/-! ### Paths -/

def isFromRoot (path : String) : Bool := path.toList.head? = some '/'

/-- The names from the root to a path, in order: a name in front of two dots is given up with them.
-/
def names (fs : Files) (path : String) : List String :=
  let start := if isFromRoot path then [] else fs.working.reverse
  let parts := (Text.fields '/' path.toList).map String.ofList
  (parts.foldl (fun passed part =>
    if part = "" ∨ part = "." then passed
    else if part = ".." then passed.drop 1
    else part :: passed) start).reverse

/-- The root in front of the names of a path. Exactly two strokes at the start stay two. -/
def root (path : String) : String :=
  match path.toList with
  | '/' :: '/' :: '/' :: _ => "/"
  | '/' :: '/' :: _ => "//"
  | _ => "/"

def greatestLength : Nat := 4095

def greatestName : Nat := 255

/-! ### Opening -/

/-- Why what the last name on a path leads to cannot be opened. `passed` holds the other names, the
last one first. -/
def lastRefusal? (fs : Files) (passed : List String) (making : Option Int) (name : String) :
    Option Refusal :=
  match fs.entries.lookup (name :: passed).reverse with
  | some (.directory _) => some (.numbered 21)
  | some (.file opening) => opening.map .numbered
  | some .account => some .endless
  | none => making.map .numbered

/-- Why names that are left to follow cannot be opened. `passed` holds the names up to here, the
last one first. -/
def refusal? (fs : Files) (passed : List String) : List String → Option Refusal
  | [] => some (.numbered 21)
  | name :: rest =>
    match fs.entries.lookup passed.reverse with
    | none => some (.numbered 2)
    | some (.directory making) =>
      if greatestName < name.utf8ByteSize then some (.numbered 36)
      else if rest.isEmpty then lastRefusal? fs passed making name
      else refusal? fs (name :: passed) rest
    | some _ => some (.numbered 20)

def Refusal.failure (path : String) : Refusal → Failure
  | .numbered n => .system (.onFile n (errorText n) path)
  | .endless => .system (.raised .general [.number 22, .text (errorText 22)])

def append (fs : Files) (path : String) : Except Failure Unit :=
  if path.toList.contains '\x00' then .error (.value .brokenPath)
  else
    let names := fs.names path
    let plain := root path ++ "/".intercalate names
    let refusal := if greatestLength < plain.utf8ByteSize then some (.numbered 36)
      else fs.refusal? [] names
    match refusal with
    | some r => .error (Refusal.failure plain r)
    | none => .ok ()

end Files

end Telnet.Log
