import Telnet.Address.Place.Lemmas
import Telnet.Address.V4
import Telnet.Proofs.Text.Numeral

/-!
# Dotted text

An address of version 4 is read from its own print and from no other text (`ofText?_eq_some_iff`).
The texts from which one is read are four octets with dots between them, each of them in at most
three digits without a zero in front (`isDotted_iff`).
-/

namespace Telnet.Address

/-! ### Reading field by field -/

theorem mapM_map_some {α β : Type} {read : α → Option β} {print : β → α} {bs : List β}
    (h : ∀ b ∈ bs, read (print b) = some b) : (bs.map print).mapM read = some bs := by
  induction bs with
  | nil => rfl
  | cons b rest ih =>
    have hb : read (print b) = some b := h b List.mem_cons_self
    have hrest := ih fun b' hb' => h b' (List.mem_cons_of_mem b hb')
    rw [List.map_cons, List.mapM_cons, hb, hrest]
    rfl

theorem eq_map_of_mapM {α β : Type} {read : α → Option β} {print : β → α} {P : β → Prop}
    (h : ∀ a b, read a = some b → a = print b ∧ P b) {as : List α} {bs : List β}
    (hread : as.mapM read = some bs) : as = bs.map print ∧ ∀ b ∈ bs, P b := by
  induction as generalizing bs with
  | nil =>
    cases hread
    exact ⟨rfl, fun b hb => nomatch hb⟩
  | cons a rest ih =>
    rw [List.mapM_cons] at hread
    obtain ⟨b, hb, hread⟩ := Option.bind_eq_some_iff.1 hread
    obtain ⟨others, hothers, hread⟩ := Option.bind_eq_some_iff.1 hread
    cases hread
    obtain ⟨ha, hPb⟩ := h a b hb
    obtain ⟨hrest, hPothers⟩ := ih hothers
    refine ⟨by rw [List.map_cons, ← ha, ← hrest], ?_⟩
    intro b' hb'
    rcases List.mem_cons.1 hb' with rfl | hb'
    · exact hPb
    · exact hPothers b' hb'

namespace V4

open Text

/-! ### Octets -/

/-- One to three digits that spell a number below 256 without a zero in front of it. -/
structure IsOctet (field : List Char) : Prop where
  isDigits : IsDigits field
  length_le : field.length ≤ 3
  plain : field.head? = some '0' → field = ['0']
  value_le : Nat.ofDigitChars 10 field 0 ≤ 255

variable {field : List Char} {n : Nat}

theorem IsOctet.octet? (h : IsOctet field) :
    octet? field = some (Nat.ofDigitChars 10 field 0) := by
  have hdigits : (field.isEmpty || !field.all Char.isDigit) = false := by
    have hne : field ≠ [] := h.isDigits.1
    simpa [hne] using h.isDigits.2
  have hshort : ¬3 < field.length := Nat.not_lt.2 h.length_le
  have hplain : (field.head? == some '0' && decide (1 < field.length)) = false := by
    by_cases hhead : field.head? = some '0'
    · simp [h.plain hhead]
    · simp [hhead]
  have hvalue : Nat.ofDigitChars 10 field 0 < 256 := Nat.lt_succ_of_le h.value_le
  simp [V4.octet?, hdigits, hshort, hplain, hvalue]

theorem isOctet_of_octet? (h : octet? field = some n) :
    IsOctet field ∧ Nat.ofDigitChars 10 field 0 = n := by
  unfold octet? at h
  split at h
  · cases h
  · rename_i hdigits
    split at h
    · cases h
    · rename_i hshape
      simp only at h
      split at h
      · rename_i hvalue
        cases h
        simp only [Bool.or_eq_true, List.isEmpty_iff, Bool.not_eq_true', not_or,
          Bool.not_eq_false, List.all_eq_true] at hdigits
        simp only [Bool.or_eq_true, decide_eq_true_eq, Bool.and_eq_true, beq_iff_eq, not_or,
          not_and, Nat.not_lt] at hshape
        obtain ⟨hshort, hplain⟩ := hshape
        refine ⟨⟨hdigits, hshort, fun hhead => ?_, Nat.le_of_lt_succ hvalue⟩, rfl⟩
        have hone : field.length ≤ 1 := hplain hhead
        obtain ⟨c, rest, rfl⟩ := List.exists_cons_of_ne_nil hdigits.1
        cases hhead
        rw [List.length_cons] at hone
        rw [List.eq_nil_of_length_eq_zero (by omega : rest.length = 0)]
      · cases h

/-- An octet is the decimal form of its value: a zero in front of it would be a digit too many. -/
theorem IsOctet.eq_decimal (h : IsOctet field) :
    field = decimal (Nat.ofDigitChars 10 field 0) := by
  obtain ⟨zeros, hspelled⟩ := h.isDigits.spells
  cases zeros with
  | zero => simpa using hspelled
  | succ zeros =>
    have hhead : field.head? = some '0' := by
      rw [hspelled]
      rfl
    have hlength : field.length = 1 := by rw [h.plain hhead, List.length_singleton]
    have hpos := List.length_pos_iff.2 (decimal_ne_nil (Nat.ofDigitChars 10 field 0))
    have hsum := congrArg List.length hspelled
    rw [List.length_append, List.length_replicate] at hsum
    omega

theorem isOctet_decimal (h : n < 256) : IsOctet (decimal n) where
  isDigits := Spells.isDigits ⟨0, rfl⟩
  length_le := (Nat.length_toDigits_le_iff (by decide) (by decide)).2 (by omega)
  plain hhead := by
    rw [head?_decimal n hhead]
    rfl
  value_le := by
    rw [decimal, Nat.ofDigitChars_ten_toDigits]
    omega

theorem octet?_decimal (h : n < 256) : octet? (decimal n) = some n := by
  have hvalue : Nat.ofDigitChars 10 (decimal n) 0 = n := Nat.ofDigitChars_ten_toDigits
  rw [(isOctet_decimal h).octet?, hvalue]

theorem eq_decimal_of_octet? (h : octet? field = some n) : field = decimal n ∧ n < 256 := by
  obtain ⟨hoctet, rfl⟩ := isOctet_of_octet? h
  exact ⟨hoctet.eq_decimal, Nat.lt_succ_of_le hoctet.value_le⟩

/-! ### Addresses -/

structure IsDotted (text : List Char) : Prop where
  count : (fields '.' text).length = 4
  isOctet : ∀ field ∈ fields '.' text, IsOctet field

variable {address : List Char} {a : Fin size}

theorem fields_text (a : Fin size) :
    fields '.' (V4.text a) = (Place.digits 256 4 a.val).map decimal := by
  refine fields_join (by simp [Place.digits]) fun field hfield => ?_
  obtain ⟨n, -, rfl⟩ := List.mem_map.1 hfield
  exact notMem_decimal (by decide) n

/-- Digits and dots are all there is in the text of an address. -/
theorem notMem_text {c : Char} (hc : c.isDigit = false) (hdot : c ≠ '.') (a : Fin size) :
    c ∉ V4.text a := by
  intro hmem
  rcases mem_join hmem with hc' | ⟨field, hfield, hc'⟩
  · exact hdot hc'
  · obtain ⟨n, -, rfl⟩ := List.mem_map.1 hfield
    exact notMem_decimal hc n hc'

theorem ofText?_text (a : Fin size) : ofText? (V4.text a) = some a := by
  have hoctets : (fields '.' (V4.text a)).mapM octet? = some (Place.digits 256 4 a.val) := by
    rw [fields_text]
    exact mapM_map_some fun n hn => octet?_decimal (Place.lt_of_mem_digits (by decide) hn)
  have hvalue : Place.value 256 (Place.digits 256 4 a.val) = a.val := Place.value_digits a.isLt
  simp [ofText?, hoctets, hvalue]

theorem eq_text_of_ofText? (h : ofText? address = some a) : address = V4.text a := by
  obtain ⟨octets, hoctets, hread⟩ := Option.bind_eq_some_iff.1 h
  obtain ⟨hfields, hsmall⟩ := eq_map_of_mapM (fun _ _ => eq_decimal_of_octet?) hoctets
  simp only at hread
  split at hread
  · rename_i hcount
    split at hread
    · cases hread
      have hdigits : Place.digits 256 octets.length (Place.value 256 octets) = octets :=
        Place.digits_value hsmall
      rw [hcount] at hdigits
      rw [← join_fields '.' address, hfields, V4.text, hdigits]
    · cases hread
  · cases hread

theorem ofText?_eq_some_iff : ofText? address = some a ↔ address = V4.text a :=
  ⟨eq_text_of_ofText?, fun h => h ▸ ofText?_text a⟩

theorem isDotted_text (a : Fin size) : IsDotted (V4.text a) where
  count := by rw [fields_text, List.length_map, Place.length_digits]
  isOctet field hfield := by
    rw [fields_text] at hfield
    obtain ⟨n, hn, rfl⟩ := List.mem_map.1 hfield
    exact isOctet_decimal (Place.lt_of_mem_digits (by decide) hn)

/-- Four octets make an address, because each of them is below 256. -/
theorem IsDotted.eq_text (h : IsDotted address) : ∃ a, address = V4.text a := by
  let octets := (fields '.' address).map fun field => Nat.ofDigitChars 10 field 0
  have hcount : octets.length = 4 := by rw [List.length_map, h.count]
  have hsmall : ∀ n ∈ octets, n < 256 := by
    intro n hn
    obtain ⟨field, hfield, rfl⟩ := List.mem_map.1 hn
    exact Nat.lt_succ_of_le (h.isOctet field hfield).value_le
  have hfields : octets.map decimal = fields '.' address := by
    have hsame : ∀ field ∈ fields '.' address,
        decimal (Nat.ofDigitChars 10 field 0) = id field :=
      fun field hfield => (h.isOctet field hfield).eq_decimal.symm
    rw [List.map_map]
    exact (List.map_congr_left hsame).trans (List.map_id _)
  have hvalue : Place.value 256 octets < size := by
    have hlt := Place.value_lt hsmall
    rw [hcount] at hlt
    exact hlt
  have hdigits : Place.digits 256 octets.length (Place.value 256 octets) = octets :=
    Place.digits_value hsmall
  rw [hcount] at hdigits
  refine ⟨⟨Place.value 256 octets, hvalue⟩, ?_⟩
  rw [V4.text, hdigits, hfields, join_fields]

theorem isDotted_iff : IsDotted address ↔ ∃ a, ofText? address = some a := by
  constructor
  · intro h
    obtain ⟨a, ha⟩ := h.eq_text
    exact ⟨a, ofText?_eq_some_iff.2 ha⟩
  · rintro ⟨a, ha⟩
    rw [ofText?_eq_some_iff.1 ha]
    exact isDotted_text a

end V4

end Telnet.Address
