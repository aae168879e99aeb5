import Mathlib.Data.List.Induction
import Telnet.Text.Numeral

/-!
# Numbers in text

A run of digits spells a number: its decimal form, with zeros in front. The decimal form itself
starts with a zero only if the number is zero, and it holds digits alone, as does the hexadecimal
one.
-/

namespace Telnet.Text

/-- The text is the decimal form of a number, with any number of zeros in front. -/
def Spells (text : List Char) (n : Nat) : Prop :=
  ∃ zeros, text = List.replicate zeros '0' ++ decimal n

def IsDigits (text : List Char) : Prop := text ≠ [] ∧ ∀ c ∈ text, c.isDigit = true

variable {text : List Char} {n : Nat}

theorem Spells.isDigits (h : Spells text n) : IsDigits text := by
  obtain ⟨zeros, rfl⟩ := h
  refine ⟨?_, fun c hc => ?_⟩
  · simp [decimal_ne_nil n]
  · rcases List.mem_append.1 hc with hzero | hdigit
    · obtain rfl := List.eq_of_mem_replicate hzero
      rfl
    · exact Nat.isDigit_of_mem_toDigits (by decide) (by decide) hdigit

/-- A text spells no number but its value. -/
theorem Spells.value (h : Spells text n) : Nat.ofDigitChars 10 text 0 = n := by
  obtain ⟨zeros, rfl⟩ := h
  rw [Nat.ofDigitChars_append, Nat.ofDigitChars_replicate_zero, Nat.mul_zero]
  exact Nat.ofDigitChars_ten_toDigits

theorem decimal_of_isDigit {c : Char} (h : c.isDigit = true) :
    c.toNat - '0'.toNat < 10 ∧ decimal (c.toNat - '0'.toNat) = [c] := by
  have hzero : '0'.toNat = 48 := rfl
  have hrange : 48 ≤ c.toNat ∧ c.toNat ≤ 57 := by
    simpa [Char.isDigit, UInt32.le_iff_toNat_le] using h
  have hlt : c.toNat - '0'.toNat < 10 := by omega
  have hdigit : Nat.digitChar (c.toNat - '0'.toNat) = c := by
    apply Char.toNat_inj.1
    rw [Nat.toNat_digitChar_of_lt_ten hlt]
    omega
  refine ⟨hlt, ?_⟩
  rw [decimal, Nat.toDigits_of_lt_base hlt, hdigit]

/-- A last digit follows the number that the digits before it spell. -/
theorem Spells.concat {c : Char} (h : Spells text n) (hc : c.isDigit = true) :
    Spells (text ++ [c]) (10 * n + (c.toNat - '0'.toNat)) := by
  obtain ⟨zeros, rfl⟩ := h
  obtain ⟨hlt, hdecimal⟩ := decimal_of_isDigit hc
  cases n with
  | zero =>
    refine ⟨zeros + 1, ?_⟩
    rw [Nat.mul_zero, Nat.zero_add, hdecimal, List.replicate_succ']
    rfl
  | succ n =>
    refine ⟨zeros, ?_⟩
    have hdigits : decimal (n + 1) ++ decimal (c.toNat - '0'.toNat) =
        decimal (10 * (n + 1) + (c.toNat - '0'.toNat)) :=
      Nat.toDigits_append_toDigits (by decide) (Nat.succ_pos n) hlt
    rw [List.append_assoc, ← hdigits, hdecimal]

/-- Digits spell their value. -/
theorem IsDigits.spells (h : IsDigits text) : Spells text (Nat.ofDigitChars 10 text 0) := by
  induction text using List.reverseRecOn with
  | nil => exact absurd rfl h.1
  | append_singleton front c ih =>
    have hc : c.isDigit = true := h.2 c (by simp)
    rw [Nat.ofDigitChars_append]
    by_cases hfront : front = []
    · subst hfront
      have hvalue : Nat.ofDigitChars 10 [c] (Nat.ofDigitChars 10 [] 0) = c.toNat - '0'.toNat := by
        simp [Nat.ofDigitChars_cons]
      exact ⟨0, by rw [hvalue, (decimal_of_isDigit hc).2]; rfl⟩
    · have hdigits : IsDigits front := ⟨hfront, fun d hd => h.2 d (by simp [hd])⟩
      exact (ih hdigits).concat hc

theorem isDigits_iff : IsDigits text ↔ ∃ n, Spells text n :=
  ⟨fun h => ⟨_, h.spells⟩, fun ⟨_, h⟩ => h.isDigits⟩

/-- No zero stands in front of a number. -/
theorem head?_decimal (n : Nat) (h : (decimal n).head? = some '0') : n = 0 := by
  induction n using Nat.strongRecOn with
  | ind n ih =>
    by_cases hn : n < 10
    · rw [decimal, Nat.toDigits_of_lt_base hn] at h
      exact Nat.digitChar_eq_zero.1 (Option.some.inj h)
    · obtain ⟨c, rest, hfront⟩ := List.exists_cons_of_ne_nil (decimal_ne_nil (n / 10))
      have hdigits : decimal n = decimal (n / 10) ++ [Nat.digitChar (n % 10)] :=
        Nat.toDigits_of_base_le (by decide) (by omega)
      rw [hdigits, hfront] at h
      have hhead : (decimal (n / 10)).head? = some '0' := by
        rw [hfront]
        exact h
      have hzero : n / 10 = 0 := ih (n / 10) (by omega) hhead
      omega

theorem notMem_decimal {c : Char} (hc : c.isDigit = false) (n : Nat) : c ∉ decimal n := by
  intro hmem
  have hdigit : c.isDigit = true := Nat.isDigit_of_mem_toDigits (by decide) (by decide) hmem
  rw [hc] at hdigit
  cases hdigit

theorem exists_of_mem_toDigits {c : Char} {n : Nat} (h : c ∈ Nat.toDigits 16 n) :
    ∃ d, d < 16 ∧ c = Nat.digitChar d := by
  induction n using Nat.strongRecOn with
  | ind n ih =>
    by_cases hn : n < 16
    · rw [Nat.toDigits_of_lt_base hn] at h
      exact ⟨n, hn, List.mem_singleton.1 h⟩
    · rw [Nat.toDigits_of_base_le (by decide) (by omega)] at h
      rcases List.mem_append.1 h with hfront | hlast
      · exact ih (n / 16) (by omega) hfront
      · exact ⟨n % 16, by omega, List.mem_singleton.1 hlast⟩

theorem notMem_hex {c : Char} (hc : hexValue? c = none) (n : Nat) : c ∉ hex 1 n := by
  intro hmem
  rw [hex_one] at hmem
  obtain ⟨d, hd, rfl⟩ := exists_of_mem_toDigits hmem
  rw [hexValue?_digitChar hd] at hc
  cases hc

end Telnet.Text
