import Mathlib.Algebra.Ring.Nat
import Mathlib.Data.List.Basic
import Telnet.Address.Place

/-!
# Place value: digits and values

Taking the digits of a number and taking the value of digits are inverse to each other, on numbers
below the power of the base and on digits below the base.
-/

namespace Telnet.Place

theorem value_foldl (base acc : Nat) (ds : List Nat) :
    ds.foldl (fun a d => base * a + d) acc = acc * base ^ ds.length + value base ds := by
  induction ds generalizing acc with
  | nil => simp [value]
  | cons d ds ih =>
    simp only [value, List.foldl_cons, List.length_cons, Nat.mul_zero, Nat.zero_add]
    rw [ih, ih d, Nat.add_mul, Nat.pow_succ', Nat.add_assoc, Nat.mul_comm base acc,
      Nat.mul_assoc]

theorem value_cons (base d : Nat) (ds : List Nat) :
    value base (d :: ds) = d * base ^ ds.length + value base ds := by
  rw [← value_foldl]
  simp [value]

/-- Digits below the base have a value below the power of the base. -/
theorem value_lt {base : Nat} {ds : List Nat} (h : ∀ d ∈ ds, d < base) :
    value base ds < base ^ ds.length := by
  induction ds with
  | nil => simp [value]
  | cons d ds ih =>
    have hd : d < base := h d List.mem_cons_self
    have ht : value base ds < base ^ ds.length := ih fun x hx => h x (List.mem_cons_of_mem d hx)
    rw [value_cons, List.length_cons, Nat.pow_succ]
    calc d * base ^ ds.length + value base ds
        < d * base ^ ds.length + base ^ ds.length := Nat.add_lt_add_left ht _
      _ = (d + 1) * base ^ ds.length := by rw [Nat.add_mul, Nat.one_mul]
      _ ≤ base * base ^ ds.length := Nat.mul_le_mul_right _ hd
      _ = base ^ ds.length * base := Nat.mul_comm _ _

/-- A number is the value of its digits if there are enough of them. -/
theorem value_digits {base count n : Nat} (h : n < base ^ count) :
    value base (digits base count n) = n := by
  induction count generalizing n with
  | zero => simp only [Nat.pow_zero, Nat.lt_one_iff] at h; simp [digits, value, h]
  | succ count ih =>
    have hq : n / base < base ^ count := by
      rw [Nat.pow_succ, Nat.mul_comm] at h
      exact Nat.div_lt_of_lt_mul h
    rw [digits, value_append, ih hq]
    exact Nat.div_add_mod n base

/-- Digits below the base are the digits of their value. -/
theorem digits_value {base : Nat} {ds : List Nat} (h : ∀ d ∈ ds, d < base) :
    digits base ds.length (value base ds) = ds := by
  rcases ds.eq_nil_or_concat with rfl | ⟨front, last, rfl⟩
  · rfl
  · rw [List.concat_eq_append] at h ⊢
    have hl : last < base := h last (by simp)
    have hf : ∀ d ∈ front, d < base := fun d hd => h d (by simp [hd])
    have hpos : 0 < base := Nat.lt_of_le_of_lt (Nat.zero_le _) hl
    rw [value_append, List.length_append, List.length_singleton, digits,
      Nat.mul_add_mod, Nat.mod_eq_of_lt hl, Nat.mul_add_div hpos, Nat.div_eq_of_lt hl,
      Nat.add_zero, digits_value hf]
termination_by ds.length
decreasing_by simp_all

end Telnet.Place
