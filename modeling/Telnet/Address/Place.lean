/-!
# Place value

A number as a fixed count of digits in some base, most significant first: the octets of an address,
its groups of sixteen bits, the bytes it is sent as.
-/

namespace Telnet.Place

/-- The value of digits in a base, most significant first. -/
def value (base : Nat) (digits : List Nat) : Nat :=
  digits.foldl (fun acc d => base * acc + d) 0

/-- The last `count` digits of a number in a base, most significant first. -/
def digits (base : Nat) : Nat → Nat → List Nat
  | 0, _ => []
  | count + 1, n => digits base count (n / base) ++ [n % base]

theorem value_append (base d : Nat) (ds : List Nat) :
    value base (ds ++ [d]) = base * value base ds + d := by
  simp [value, List.foldl_append]

@[simp] theorem length_digits (base count n : Nat) : (digits base count n).length = count := by
  induction count generalizing n with
  | zero => rfl
  | succ count ih => simp [digits, ih]

theorem lt_of_mem_digits {base count n d : Nat} (hb : 0 < base) (hd : d ∈ digits base count n) :
    d < base := by
  induction count generalizing n with
  | zero => simp [digits] at hd
  | succ count ih =>
    simp only [digits, List.mem_append, List.mem_singleton] at hd
    rcases hd with hd | rfl
    · exact ih hd
    · exact Nat.mod_lt _ hb

end Telnet.Place
