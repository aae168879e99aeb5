import Telnet.Endpoint
import Telnet.Proofs.Text.Numeral

/-!
# Reading an endpoint, and reading it again

The port of an endpoint is the number that is spelled behind the first colon of a text, and the
standard port where none is spelled or a port cannot be so great. Only a run of more digits than are
read as one number has no port at all (`ofText_reads_digits`). What is read is read again from its
print (`ofText_reads_text`).
-/

namespace Telnet

namespace Endpoint

open Text

/-- What stands in front of the first colon of a text; all of it if there is none. -/
def hostPart (text : String) : String := String.ofList (text.toList.takeWhile (· ≠ ':'))

/-- What stands behind the first colon of a text; nothing if there is none. -/
def portPart (text : String) : List Char := (text.toList.dropWhile (· ≠ ':')).tail

theorem ofText_eq (text : String) :
    ofText text = (portOfText (portPart text)).map fun port => ⟨hostPart text, port⟩ := by
  have hhost := fst_cut ':' text.toList
  have hport := snd_cut ':' text.toList
  rw [ofText, hostPart, portPart, ← hhost, ← hport]
  rcases Text.cut ':' text.toList with ⟨host, _ | port⟩
  · rfl
  · simp only [Option.getD_some]
    cases portOfText port <;> rfl

theorem portOfText_of_spells {text : List Char} {n : Nat} (h : Spells text n) :
    portOfText text =
      if ValueFault.digitLimit < text.length then .error (.value (.tooManyDigits text.length))
      else .ok (if n ≤ greatestPort then n else standardPort) := by
  obtain ⟨hne, hall⟩ := h.isDigits
  have hguard : (text.isEmpty || !text.all Char.isDigit) = false := by
    simpa [hne] using hall
  rw [portOfText, hguard, if_neg Bool.false_ne_true, h.value]

theorem portOfText_of_not_isDigits {text : List Char} (h : ¬IsDigits text) :
    portOfText text = .ok standardPort := by
  have hguard : (text.isEmpty || !text.all Char.isDigit) = true := by
    by_contra hnot
    exact h (by simpa [IsDigits] using hnot)
  rw [portOfText, hguard, if_pos rfl]

theorem ofText_of_spells {text : String} {n : Nat} (h : Spells (portPart text) n)
    (hlength : (portPart text).length ≤ ValueFault.digitLimit) :
    ofText text =
      .ok ⟨hostPart text, (if n ≤ greatestPort then n else standardPort : Nat)⟩ := by
  rw [ofText_eq, portOfText_of_spells h, if_neg (by omega)]
  rfl

theorem ofText_of_not_isDigits {text : String} (h : ¬IsDigits (portPart text)) :
    ofText text = .ok (standard (hostPart text)) := by
  rw [ofText_eq, portOfText_of_not_isDigits h]
  rfl

theorem ofText_error_iff {text : String} {f : Failure} :
    ofText text = .error f ↔ IsDigits (portPart text) ∧
      ValueFault.digitLimit < (portPart text).length ∧
      f = .value (.tooManyDigits (portPart text).length) := by
  constructor
  · intro hf
    have hdigits : IsDigits (portPart text) := by
      by_contra hnone
      rw [ofText_of_not_isDigits hnone] at hf
      cases hf
    have hlong : ValueFault.digitLimit < (portPart text).length := by
      by_contra hshort
      rw [ofText_of_spells hdigits.spells (by omega)] at hf
      cases hf
    rw [ofText_eq, portOfText_of_spells hdigits.spells, if_pos hlong] at hf
    cases hf
    exact ⟨hdigits, hlong, rfl⟩
  · rintro ⟨hdigits, hlong, rfl⟩
    rw [ofText_eq, portOfText_of_spells hdigits.spells, if_pos hlong]
    rfl

/-- An endpoint can always be read but for a port that no number is read for. -/
theorem value_of_ofText {text : String} {f : Failure} (h : ofText text = .error f) :
    ∃ fault, f = .value fault := by
  obtain ⟨-, -, hvalue⟩ := ofText_error_iff.1 h
  exact ⟨_, hvalue⟩

/-- An endpoint is read from a text for the host in front of its first colon. Behind the colon,
digits that spell a port are that port, and anything else stands for the standard port; only a run
of too many digits is refused, whatever it spells. -/
theorem ofText_reads_digits (text : String) :
    let host := hostPart text
    let digits := portPart text
    (IsDigits digits ↔ ∃ n, Spells digits n) ∧
    (∀ n, Spells digits n → digits.length ≤ ValueFault.digitLimit →
      ofText text = .ok ⟨host, (if n ≤ greatestPort then n else standardPort : Nat)⟩) ∧
    (¬IsDigits digits → ofText text = .ok ⟨host, standardPort⟩) ∧
    ∀ f, ofText text = .error f ↔ IsDigits digits ∧ ValueFault.digitLimit < digits.length ∧
      f = .value (.tooManyDigits digits.length) :=
  ⟨isDigits_iff, fun _ => ofText_of_spells, ofText_of_not_isDigits, fun _ => ofText_error_iff⟩

/-- A port behind very many zeros is refused, though it is spelled and small enough. -/
theorem ofText_many_zeros :
    let text := String.ofList ('h' :: ':' :: (List.replicate 4299 '0' ++ ['8', '0']))
    hostPart text = "h" ∧ Spells (portPart text) 80 ∧ 80 ≤ greatestPort ∧
      ofText text = .error (.value (.tooManyDigits 4301)) ∧ ofText text ≠ .ok ⟨"h", 80⟩ := by
  intro text
  have hparts : ∀ digits : List Char, hostPart (String.ofList ('h' :: ':' :: digits)) = "h" ∧
      portPart (String.ofList ('h' :: ':' :: digits)) = digits := by
    intro digits
    simp [hostPart, portPart]
  obtain ⟨hhost, hport⟩ := hparts (List.replicate 4299 '0' ++ ['8', '0'])
  change hostPart text = "h" at hhost
  change portPart text = _ at hport
  have hspells : Spells (portPart text) 80 := ⟨4299, hport⟩
  have hlength : (portPart text).length = 4301 := by
    rw [hport, List.length_append, List.length_replicate]
    rfl
  have herror : ofText text = .error (.value (.tooManyDigits 4301)) := by
    refine ofText_error_iff.2 ⟨hspells.isDigits, ?_, ?_⟩
    · rw [hlength]
      decide
    · rw [hlength]
  refine ⟨hhost, hspells, by decide, herror, ?_⟩
  rw [herror]
  intro hok
  cases hok

/-! ### Printing and reading again -/

/-- The host ends where the port begins, and the port is one. -/
def IsPlain (e : Endpoint) : Prop :=
  ':' ∉ e.host.toList ∧ 0 ≤ e.port ∧ e.port ≤ greatestPort

variable {e : Endpoint} {text : String}

theorem toList_text (e : Endpoint) :
    e.text.toList = e.host.toList ++ ':' :: signedDecimal e.port := by
  simp [Endpoint.text]

theorem parts_text (h : ':' ∉ e.host.toList) :
    hostPart e.text = e.host ∧ portPart e.text = signedDecimal e.port := by
  have hfront : ∀ c ∈ e.host.toList, decide (c ≠ ':') = true := by
    intro c hc
    exact decide_eq_true fun hcolon => h (hcolon ▸ hc)
  constructor
  · rw [hostPart, toList_text, List.takeWhile_append_of_pos hfront]
    simp
  · rw [portPart, toList_text, List.dropWhile_append_of_pos hfront]
    simp

/-- A port in print has five digits at most, which are few enough to be read. -/
theorem ofText_text (h : e.IsPlain) : ofText e.text = .ok e := by
  obtain ⟨hcolon, hnonneg, hle⟩ := h
  obtain ⟨host, port⟩ := e
  obtain ⟨n, rfl⟩ := Int.eq_ofNat_of_zero_le hnonneg
  have hn : n ≤ 65535 := Int.ofNat_le.1 hle
  obtain ⟨hhost, hport⟩ := parts_text hcolon
  have hspells : Spells (portPart (Endpoint.text ⟨host, n⟩)) n := ⟨0, hport⟩
  have hshort : (decimal n).length ≤ 5 :=
    (Nat.length_toDigits_le_iff (by decide) (by decide)).2 (by omega)
  have hlength : (portPart (Endpoint.text ⟨host, n⟩)).length ≤ ValueFault.digitLimit := by
    rw [hport]
    exact Nat.le_trans hshort (by decide)
  rw [ofText_of_spells hspells hlength, hhost, if_pos (show n ≤ greatestPort from hn)]

theorem portOfText_le {digits : List Char} {port : Nat} (h : portOfText digits = .ok port) :
    port ≤ greatestPort := by
  by_cases hdigits : IsDigits digits
  · rw [portOfText_of_spells hdigits.spells] at h
    split at h
    · cases h
    · cases h
      split
      · assumption
      · decide
  · rw [portOfText_of_not_isDigits hdigits] at h
    cases h
    decide

theorem isPlain_of_ofText (h : ofText text = .ok e) : e.IsPlain := by
  rw [ofText_eq] at h
  cases hport : portOfText (portPart text) with
  | error f =>
    rw [hport] at h
    cases h
  | ok port =>
    rw [hport] at h
    cases h
    have hle : port ≤ greatestPort := portOfText_le hport
    have hcolon : ':' ∉ (hostPart text).toList := by
      intro hmem
      rw [hostPart, String.toList_ofList] at hmem
      have hne := List.all_eq_true.1 List.all_takeWhile ':' hmem
      exact absurd rfl (of_decide_eq_true hne)
    exact ⟨hcolon, Int.natCast_nonneg port, Int.ofNat_le.2 hle⟩

/-- An endpoint in print is read as itself exactly if its host holds no colon and its port is one.
Whatever is read at all is such an endpoint, so that different ones differ in print. -/
theorem ofText_reads_text :
    (∀ e : Endpoint, ofText e.text = .ok e ↔
      ':' ∉ e.host.toList ∧ 0 ≤ e.port ∧ e.port ≤ 65535) ∧
    (∀ text e, ofText text = .ok e →
      ':' ∉ e.host.toList ∧ 0 ≤ e.port ∧ e.port ≤ 65535 ∧ ofText e.text = .ok e) ∧
    ∀ text text' e e', ofText text = .ok e → ofText text' = .ok e' → e ≠ e' →
      e.text ≠ e'.text := by
  refine ⟨fun e => ⟨isPlain_of_ofText, ofText_text⟩, fun text e h => ?_, ?_⟩
  · have hplain : e.IsPlain := isPlain_of_ofText h
    exact ⟨hplain.1, hplain.2.1, hplain.2.2, ofText_text hplain⟩
  · intro text text' e e' h h' hne hsame
    have hagain := ofText_text (isPlain_of_ofText h)
    rw [hsame, ofText_text (isPlain_of_ofText h')] at hagain
    cases hagain
    exact hne rfl

/-- A text with a port that is too great prints with the standard port, and the print is read as
the same endpoint. -/
theorem ofText_reads_text_standard :
    ofText "h:65536" = .ok ⟨"h", 23⟩ ∧
      ':' ∉ "h".toList ∧ ofText (Endpoint.text ⟨"h", 23⟩) = .ok ⟨"h", 23⟩ := by
  have hread : ofText "h:65536" = .ok ⟨"h", 23⟩ := by decide
  obtain ⟨hcolon, -, -, hagain⟩ := ofText_reads_text.2.1 "h:65536" ⟨"h", 23⟩ hread
  exact ⟨hread, hcolon, hagain⟩

end Endpoint

end Telnet
