/-!
# Numerals

Numbers as they are written: decimal, and hexadecimal in small letters filled up with zeros to a
least width. `ofHexDigits?` is the way back from hexadecimal.
-/

namespace Telnet.Text

def decimal (n : Nat) : List Char := Nat.toDigits 10 n

/-- A number in decimal digits, behind a minus sign if it is negative. -/
def signedDecimal (n : Int) : List Char :=
  match n with
  | .ofNat m => decimal m
  | .negSucc m => '-' :: decimal (m + 1)

/-- A number in hexadecimal digits, with zeros in front up to a least width. -/
def hex (width n : Nat) : List Char :=
  let digits := Nat.toDigits 16 n
  List.replicate (width - digits.length) '0' ++ digits

def hexValue? (c : Char) : Option Nat :=
  if '0' ≤ c ∧ c ≤ '9' then some (c.toNat - '0'.toNat)
  else if 'a' ≤ c ∧ c ≤ 'f' then some (c.toNat - 'a'.toNat + 10)
  else if 'A' ≤ c ∧ c ≤ 'F' then some (c.toNat - 'A'.toNat + 10)
  else none

/-- The value of a run of hexadecimal digits, most significant first; the empty run has the value
zero. -/
def ofHexDigits? (digits : List Char) : Option Nat :=
  digits.foldl (fun acc c => do return 16 * (← acc) + (← hexValue? c)) (some 0)

theorem decimal_ne_nil (n : Nat) : decimal n ≠ [] := Nat.toDigits_ne_nil

theorem hex_one (n : Nat) : hex 1 n = Nat.toDigits 16 n := by
  have hpos : 0 < (Nat.toDigits 16 n).length := Nat.length_toDigits_pos
  have hnone : 1 - (Nat.toDigits 16 n).length = 0 := by omega
  simp only [hex, hnone, List.replicate_zero, List.nil_append]

theorem hexValue?_digitChar {d : Nat} (h : d < 16) : hexValue? (Nat.digitChar d) = some d := by
  have hall : ∀ d : Fin 16, hexValue? (Nat.digitChar d) = some d.val := by decide
  exact hall ⟨d, h⟩

theorem ofHexDigits?_concat {digits : List Char} {c : Char} {n d : Nat}
    (hn : ofHexDigits? digits = some n) (hd : hexValue? c = some d) :
    ofHexDigits? (digits ++ [c]) = some (16 * n + d) := by
  rw [ofHexDigits?] at hn
  rw [ofHexDigits?, List.foldl_append, hn]
  simp [hd]

/-- A number in hexadecimal digits is read as itself. -/
theorem ofHexDigits?_toDigits (n : Nat) : ofHexDigits? (Nat.toDigits 16 n) = some n := by
  induction n using Nat.strongRecOn with
  | ind n ih =>
    by_cases hn : n < 16
    · have hzero : ofHexDigits? [] = some 0 := rfl
      have hd := ofHexDigits?_concat hzero (hexValue?_digitChar hn)
      rw [Nat.toDigits_of_lt_base hn]
      simpa using hd
    · have hfront : ofHexDigits? (Nat.toDigits 16 (n / 16)) = some (n / 16) :=
        ih (n / 16) (by omega)
      have hlast : hexValue? (Nat.digitChar (n % 16)) = some (n % 16) :=
        hexValue?_digitChar (by omega)
      rw [Nat.toDigits_of_base_le (by decide) (by omega), ofHexDigits?_concat hfront hlast,
        Nat.div_add_mod]

end Telnet.Text
