import Telnet.Address.V4

/-!
# Addresses of version 6

Eight groups of sixteen bits in hexadecimal with colons between them. One run of zero groups may be
left out between two colons, and the last two groups may be written as an address of version 4. In
print the first of the longest runs of at least two zero groups is left out.
-/

namespace Telnet.Address.V6

abbrev size : Nat := 340282366920938463463374607431768211456

abbrev groupSize : Nat := 65536

/-! ### Reading -/

def group? (field : List Char) : Option Nat :=
  if field.isEmpty || 4 < field.length then none else Text.ofHexDigits? field

/-- The fields of a text with a dotted last field replaced by the two groups it stands for. -/
def plainFields? (fields : List (List Char)) : Option (List (List Char)) :=
  match fields.getLast? with
  | some last =>
    if '.' ∈ last then
      (V4.ofText? last).map fun n =>
        fields.dropLast ++ (Place.digits groupSize 2 n.val).map (Text.hex 1)
    else some fields
  | none => some fields

/-- The fields in front of the first empty field that is neither the first nor the last one, and
those behind it. -/
def gap? : List (List Char) → Option (List (List Char) × List (List Char))
  | first :: [] :: second :: rest => some ([first], second :: rest)
  | first :: rest => (gap? rest).map fun sides => (first :: sides.1, sides.2)
  | [] => none

/-- The groups on one side of the gap. The side may be missing altogether. -/
def side? (fields : List (List Char)) : Option (List Nat) :=
  if fields = [[]] then some [] else fields.mapM group?

def groups? (fields : List (List Char)) : Option (List Nat) :=
  match gap? fields with
  | none => do
    let groups ← fields.mapM group?
    if groups.length = 8 then some groups else none
  | some (front, back) => do
    let high ← side? front
    let low ← side? back
    let count := high.length + low.length
    if count < 8 then some (high ++ List.replicate (8 - count) 0 ++ low) else none

def ofText? (text : List Char) : Option (Fin size) := do
  let fields ← plainFields? (Text.fields ':' text)
  let groups ← groups? fields
  let n := Place.value groupSize groups
  if h : n < size then some ⟨n, h⟩ else none

/-! ### Writing -/

/-- The length of the run of zeros that starts at an index. -/
def runAt (groups : List Nat) (i : Nat) : Nat :=
  ((groups.drop i).takeWhile (· = 0)).length

/-- The index at which the first of the longest runs of zeros starts. -/
def longestRun (groups : List Nat) : Nat :=
  (List.range groups.length).foldl
    (fun best i => if runAt groups best < runAt groups i then i else best) 0

def joined (groups : List Nat) : List Char :=
  Text.join ':' (groups.map (Text.hex 1))

def textOfGroups (groups : List Nat) : List Char :=
  let start := longestRun groups
  let count := runAt groups start
  if 1 < count then
    joined (groups.take start) ++ [':', ':'] ++ joined (groups.drop (start + count))
  else joined groups

def text (n : Fin size) : List Char :=
  textOfGroups (Place.digits groupSize 8 n.val)

end Telnet.Address.V6
