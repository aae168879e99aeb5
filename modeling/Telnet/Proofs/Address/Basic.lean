import Telnet.Address.Basic
import Telnet.Proofs.Address.V6

/-!
# Addresses and their representations

An address is read from its print if its scope can be told apart from the rest, and no other address
is ever read (`ofText?_text`, `isPlain_of_address?`). The number and the bytes of an address stand
for it as well.
-/

namespace Telnet.Address

/-- The scope of the address, if it has one, can be read from its text. -/
def IsPlain : Address → Prop
  | .v6 _ (some scope) => scope ≠ "" ∧ '%' ∉ scope.toList ∧ '/' ∉ scope.toList
  | _ => True

variable {a : Address} {text : String}

/-! ### Text -/

theorem v6OfText?_text (n : Fin V6.size) : v6OfText? (V6.text n) = some (.v6 n none) := by
  have hslash : '/' ∉ V6.text n := V6.notMem_text (by decide) (by decide) n
  have hpercent : '%' ∉ V6.text n := V6.notMem_text (by decide) (by decide) n
  simp [v6OfText?, hslash, Text.cut_of_notMem hpercent, V6.ofText?_text]

theorem v6OfText?_scoped (n : Fin V6.size) {scope : String} (h : (v6 n (some scope)).IsPlain) :
    v6OfText? (V6.text n ++ '%' :: scope.toList) = some (.v6 n (some scope)) := by
  obtain ⟨hne, hpercent, hslash⟩ := h
  have hslash' : '/' ∉ V6.text n ++ '%' :: scope.toList := by
    have htext : '/' ∉ V6.text n := V6.notMem_text (by decide) (by decide) n
    simp [htext, hslash]
  have hcut : Text.cut '%' (V6.text n ++ '%' :: scope.toList) = (V6.text n, some scope.toList) :=
    Text.cut_append (V6.notMem_text (by decide) (by decide) n) _
  simp [v6OfText?, hslash', hcut, hne, hpercent, V6.ofText?_text]

/-- No text is that of two addresses of different versions. -/
theorem v4_ofText?_of_colon {text : List Char} (h : ':' ∈ text) : V4.ofText? text = none := by
  cases hread : V4.ofText? text with
  | none => rfl
  | some n =>
    rw [V4.ofText?_eq_some_iff.1 hread] at h
    exact absurd h (V4.notMem_text (by decide) (by decide) n)

theorem ofText?_text (h : a.IsPlain) : ofText? a.text = some a := by
  match a, h with
  | .v4 n, _ => simp [ofText?, Address.text, V4.ofText?_text]
  | .v6 n none, _ =>
    have hv4 : V4.ofText? (V6.text n) = none := v4_ofText?_of_colon (V6.colon_mem_text n)
    simp [ofText?, Address.text, hv4, v6OfText?_text]
  | .v6 n (some scope), h =>
    have hv4 : V4.ofText? (V6.text n ++ '%' :: scope.toList) = none :=
      v4_ofText?_of_colon (List.mem_append_left _ (V6.colon_mem_text n))
    simp [ofText?, Address.text, hv4, v6OfText?_scoped n h]

theorem isPlain_of_v6OfText? {text : List Char} (h : v6OfText? text = some a) : a.IsPlain := by
  unfold v6OfText? at h
  split at h
  · cases h
  · rename_i hslash
    split at h
    · obtain ⟨n, -, rfl⟩ := Option.map_eq_some_iff.1 h
      trivial
    · rename_i body scope hcut
      split at h
      · cases h
      · rename_i hscope
        obtain ⟨n, -, rfl⟩ := Option.map_eq_some_iff.1 h
        have htext : text = body ++ '%' :: scope := Text.eq_append_of_cut hcut
        simp only [Bool.or_eq_true, List.isEmpty_iff, List.contains_iff_mem, not_or] at hscope
        obtain ⟨hne, hpercent⟩ := hscope
        have hslash' : '/' ∉ scope := by
          intro hmem
          exact hslash (by simp [htext, hmem])
        refine ⟨?_, by simpa using hpercent, by simpa using hslash'⟩
        intro hempty
        exact hne (by simpa using congrArg String.toList hempty)

theorem isPlain_of_ofText? (h : ofText? text = some a) : a.IsPlain := by
  unfold ofText? at h
  cases hv4 : V4.ofText? text.toList with
  | some n =>
    rw [hv4] at h
    cases h
    trivial
  | none =>
    rw [hv4] at h
    exact isPlain_of_v6OfText? h

/-- Without a colon only an address of version 4 can be meant. -/
theorem ofText?_of_notMem (h : ':' ∉ text.toList) :
    ofText? text = (V4.ofText? text.toList).map .v4 := by
  have hbody : ':' ∉ (Text.cut '%' text.toList).1 := by
    rw [Text.fst_cut]
    intro hmem
    exact h (List.takeWhile_subset _ hmem)
  have hnone : V6.ofText? (Text.cut '%' text.toList).1 = none := V6.ofText?_of_notMem hbody
  have hv6 : v6OfText? text.toList = none := by
    rw [v6OfText?]
    rcases hcut : Text.cut '%' text.toList with ⟨body, _ | scope⟩
    · rw [hcut] at hnone
      simp [hnone]
    · rw [hcut] at hnone
      simp [hnone]
  rw [ofText?, hv6, Option.or_none]

/-! ### Numbers and bytes -/

theorem map_toNat_ofNat {ns : List Nat} (h : ∀ n ∈ ns, n < 256) :
    (ns.map UInt8.ofNat).map UInt8.toNat = ns := by
  rw [List.map_map]
  have hsame : ∀ n ∈ ns, (UInt8.toNat ∘ UInt8.ofNat) n = id n := by
    intro n hn
    have hlt : n < 256 := h n hn
    simp [UInt8.toNat_ofNat', Nat.mod_eq_of_lt hlt]
  exact (List.map_congr_left hsame).trans (List.map_id _)

theorem ofBytes?_toBytes_v4 (n : Fin V4.size) : ofBytes? (v4 n).toBytes = some (v4 n) := by
  have hdigits : (v4 n).toBytes.map UInt8.toNat = Place.digits 256 4 n.val :=
    map_toNat_ofNat fun d hd => Place.lt_of_mem_digits (by decide) hd
  have hvalue : Place.value 256 (Place.digits 256 4 n.val) = n.val := Place.value_digits n.isLt
  have hlength : (v4 n).toBytes.length = 4 := by simp [toBytes]
  simp [ofBytes?, hdigits, hvalue, hlength]

theorem ofBytes?_toBytes_v6 (n : Fin V6.size) :
    ofBytes? (v6 n none).toBytes = some (v6 n none) := by
  have hdigits : (v6 n none).toBytes.map UInt8.toNat = Place.digits 256 16 n.val :=
    map_toNat_ofNat fun d hd => Place.lt_of_mem_digits (by decide) hd
  have hvalue : Place.value 256 (Place.digits 256 16 n.val) = n.val := Place.value_digits n.isLt
  have hlength : (v6 n none).toBytes.length = 16 := by simp [toBytes]
  simp [ofBytes?, hdigits, hvalue, hlength]

theorem ofNumber?_v4 (n : Fin V4.size) : ofNumber? n.val = some (.v4 n) := by
  have hsmall : n.val < V4.size := n.isLt
  simp [ofNumber?, hsmall]

theorem ofNumber?_v6 (n : Fin V6.size) (h : V4.size ≤ n.val) :
    ofNumber? n.val = some (.v6 n none) := by
  have hlarge : ¬n.val < V4.size := Nat.not_lt.2 h
  simp [ofNumber?, hlarge]

theorem isPlain_of_ofNumber? {n : Int} (h : ofNumber? n = some a) : a.IsPlain := by
  unfold ofNumber? at h
  split at h
  · split at h
    · cases h
      trivial
    · split at h
      · cases h
        trivial
      · cases h
  · cases h

theorem isPlain_of_ofBytes? {bytes : Bytes} (h : ofBytes? bytes = some a) : a.IsPlain := by
  unfold ofBytes? at h
  simp only at h
  split at h
  · split at h
    · cases h
      trivial
    · cases h
  · split at h
    · split at h
      · cases h
        trivial
      · cases h
    · cases h

theorem isPlain_of_address? {given : Answer} (h : given.address? = some a) : a.IsPlain := by
  cases given with
  | text s => exact isPlain_of_ofText? h
  | number n => exact isPlain_of_ofNumber? h
  | bytes b => exact isPlain_of_ofBytes? h
  | other d =>
    cases d with
    | truth b => exact isPlain_of_ofNumber? h
    | _ => exact isPlain_of_ofText? h

end Telnet.Address
