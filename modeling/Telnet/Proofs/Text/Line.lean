import Telnet.Proofs.Text.Numeral
import Telnet.Text.Quoted

/-!
# Text on one line

A text is on one line if it has no character that ends one. A quoted text always is, whatever
characters are quoted (`unbroken_quote`).
-/

namespace Telnet.Text

def lineBreaks : List Char :=
  ['\n', '\x0b', '\x0c', '\r', '\x1c', '\x1d', '\x1e', '\u0085', '\u2028', '\u2029']

/-- The text is on one line. -/
def Unbroken (text : String) : Prop := ∀ c ∈ text.toList, c ∉ lineBreaks

instance (text : String) : Decidable (Unbroken text) :=
  List.decidableBAll (· ∉ lineBreaks) text.toList

variable {a b separator : String} {words : List String}

@[simp] theorem unbroken_append : Unbroken (a ++ b) ↔ Unbroken a ∧ Unbroken b := by
  simp only [Unbroken, String.toList_append, List.mem_append, or_imp, forall_and]

theorem unbroken_intercalate (hseparator : Unbroken separator) :
    Unbroken (separator.intercalate words) ↔ ∀ word ∈ words, Unbroken word := by
  induction words with
  | nil => simp [Unbroken]
  | cons word others ih =>
    cases others with
    | nil => simp
    | cons next rest =>
      rw [String.intercalate_cons_cons, unbroken_append, unbroken_append, ih]
      simp only [List.forall_mem_cons, hseparator, and_true]

/-! ### Quoted text -/

/-- What is shown as it is does not end a line. -/
theorem notMem_lineBreaks_of_isPrintable {c : Char} (h : isPrintable c = true) :
    c ∉ lineBreaks := by
  have hhidden : (lineBreaks.all fun c => !isPrintable c) = true := by decide +kernel
  intro hmem
  have hc := List.all_eq_true.1 hhidden c hmem
  rw [h] at hc
  cases hc

theorem notMem_lineBreaks_hex {c : Char} {width n : Nat} (h : c ∈ hex width n) :
    c ∉ lineBreaks := by
  have hdigits : ∀ d : Fin 16, Nat.digitChar d ∉ lineBreaks := by decide
  rw [hex, List.mem_append] at h
  rcases h with hzero | hdigit
  · obtain rfl := List.eq_of_mem_replicate hzero
    decide
  · obtain ⟨d, hd, rfl⟩ := exists_of_mem_toDigits hdigit
    exact hdigits ⟨d, hd⟩

theorem notMem_lineBreaks_codePoint {c : Char} {n : Nat} (h : c ∈ Quoted.codePoint n) :
    c ∉ lineBreaks := by
  have hbehind : ∀ kind width, kind ∉ lineBreaks → c ∈ '\\' :: kind :: hex width n →
      c ∉ lineBreaks := by
    intro kind width hkind hmem
    rcases List.mem_cons.1 hmem with rfl | hmem
    · decide
    · rcases List.mem_cons.1 hmem with rfl | hmem
      · exact hkind
      · exact notMem_lineBreaks_hex hmem
  unfold Quoted.codePoint at h
  split at h
  · exact hbehind 'x' 2 (by decide) h
  · split at h
    · exact hbehind 'u' 4 (by decide) h
    · exact hbehind 'U' 8 (by decide) h

theorem notMem_lineBreaks_escape {m c d : Char} (hm : m ∉ lineBreaks) (h : d ∈ Quoted.escape m c) :
    d ∉ lineBreaks := by
  have hpair : ∀ e, e ∉ lineBreaks → d ∈ ['\\', e] → d ∉ lineBreaks := by
    intro e he hmem
    rcases List.mem_cons.1 hmem with rfl | hmem
    · decide
    · rwa [List.mem_singleton.1 hmem]
  unfold Quoted.escape at h
  split at h
  · rename_i hmark
    refine hpair c ?_ h
    rcases hmark with rfl | rfl
    · exact hm
    · decide
  split at h
  · exact hpair 't' (by decide) h
  split at h
  · exact hpair 'n' (by decide) h
  split at h
  · exact hpair 'r' (by decide) h
  split at h
  · rename_i hprintable
    rw [List.mem_singleton.1 h]
    exact notMem_lineBreaks_of_isPrintable hprintable
  · exact notMem_lineBreaks_codePoint h

theorem unbroken_quote (text : String) : Unbroken (quote text) := by
  have hmark : Quoted.mark text.toList ∉ lineBreaks := by
    unfold Quoted.mark
    split <;> decide
  intro c hc
  rw [quote, String.toList_ofList, Quoted.encode, List.mem_append, List.mem_cons,
    List.mem_flatMap, List.mem_singleton] at hc
  rcases hc with (rfl | ⟨d, -, hd⟩) | rfl
  · exact hmark
  · exact notMem_lineBreaks_escape hmark hd
  · exact hmark

end Telnet.Text
