import Telnet.Address.V6
import Telnet.Bytes
import Telnet.Failure.Basic

/-!
# Addresses

An address is a number of version 4 or 6; one of version 6 may be valid only in a scope of the local
host, which its text names behind a percent sign. A resolver may answer with a text, a number or the
bytes of an address, and each of them denotes at most one address.
-/

namespace Telnet

inductive Family where
  | inet | inet6
  deriving DecidableEq, Repr

/-- The address of a host. -/
inductive Address where
  | v4 (n : Fin Address.V4.size)
  | v6 (n : Fin Address.V6.size) (scope : Option String)
  deriving DecidableEq, Repr

inductive Answer where
  | text (s : String)
  | number (n : Int)
  | bytes (b : Bytes)
  /-- A value of another kind, which counts as a number if it is a truth value. -/
  | other (d : Datum)
  deriving DecidableEq, Repr

namespace Address

def version : Address → Nat
  | .v4 _ => 4
  | .v6 _ _ => 6

def family : Address → Family
  | .v4 _ => .inet
  | .v6 _ _ => .inet6

def text : Address → String
  | .v4 n => String.ofList (V4.text n)
  | .v6 n none => String.ofList (V6.text n)
  | .v6 n (some scope) => String.ofList (V6.text n ++ '%' :: scope.toList)

def kind : Address → String
  | .v4 _ => "IPv4Address"
  | .v6 _ _ => "IPv6Address"

def datum (a : Address) : Datum := .other a.text (a.kind ++ "(" ++ Text.quote a.text ++ ")") true

/-- An address of version 6 with a scope if a percent sign follows it; the scope is not empty. -/
def v6OfText? (text : List Char) : Option Address :=
  if '/' ∈ text then none
  else match Text.cut '%' text with
    | (body, none) => (V6.ofText? body).map (.v6 · none)
    | (body, some scope) =>
      if scope.isEmpty || scope.contains '%' then none
      else (V6.ofText? body).map (.v6 · (some (String.ofList scope)))

def ofText? (text : String) : Option Address :=
  ((V4.ofText? text.toList).map .v4).or (v6OfText? text.toList)

/-- The address with a number: of version 4 if the number is small enough, else of version 6. -/
def ofNumber? (n : Int) : Option Address :=
  match n with
  | .ofNat n =>
    if h : n < V4.size then some (.v4 ⟨n, h⟩)
    else if h : n < V6.size then some (.v6 ⟨n, h⟩ none)
    else none
  | .negSucc _ => none

/-- The address that four or sixteen bytes stand for, most significant first. -/
def ofBytes? (bytes : Bytes) : Option Address :=
  let n := Place.value 256 (bytes.map UInt8.toNat)
  if bytes.length = 4 then
    if h : n < V4.size then some (.v4 ⟨n, h⟩) else none
  else if bytes.length = 16 then
    if h : n < V6.size then some (.v6 ⟨n, h⟩ none) else none
  else none

/-- The bytes of an address, most significant first. -/
def toBytes : Address → Bytes
  | .v4 n => (Place.digits 256 4 n.val).map UInt8.ofNat
  | .v6 n _ => (Place.digits 256 16 n.val).map UInt8.ofNat

end Address

namespace Answer

def datum : Answer → Datum
  | .text s => .text s
  | .number n => .number n
  | .bytes b =>
    let print := String.ofList (Text.Quoted.encodeBytes b)
    .other print print !b.isEmpty
  | .other d => d

/-- The address that an answer denotes. A value of another kind is read as it is printed, but a truth
value is a number. -/
def address? : Answer → Option Address
  | .text s => Address.ofText? s
  | .number n => Address.ofNumber? n
  | .bytes b => Address.ofBytes? b
  | .other (.truth b) => Address.ofNumber? (if b then 1 else 0)
  | .other d => Address.ofText? d.plain

/-- The address that an answer denotes, or the fault of an answer that denotes none. -/
def address (a : Answer) : Except Failure Address :=
  match a.address? with
  | some address => .ok address
  | none => .error (.value (.notAnAddress a.datum.quoted))

end Answer

end Telnet
