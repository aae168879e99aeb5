import Telnet.Address.Place
import Telnet.Text.Fields
import Telnet.Text.Numeral

/-!
# Addresses of version 4

Four octets in decimal with dots between them. An octet has at most three digits and no zero in
front of another digit, so each address has one text.
-/

namespace Telnet.Address.V4

abbrev size : Nat := 4294967296

/-- The octet that a field of a text stands for. -/
def octet? (field : List Char) : Option Nat :=
  if field.isEmpty || !field.all Char.isDigit then none
  else if 3 < field.length || (field.head? == some '0' && 1 < field.length) then none
  else
    let n := Nat.ofDigitChars 10 field 0
    if n < 256 then some n else none

def ofText? (text : List Char) : Option (Fin size) := do
  let octets ← (Text.fields '.' text).mapM octet?
  if octets.length = 4 then
    let n := Place.value 256 octets
    if h : n < size then some ⟨n, h⟩ else none
  else none

def text (n : Fin size) : List Char :=
  Text.join '.' ((Place.digits 256 4 n.val).map Text.decimal)

end Telnet.Address.V4
