import Mathlib.Data.List.TakeWhile
import Telnet.Address.V6
import Telnet.Proofs.Address.V4

/-!
# Text with colons

An address of version 6 is read from its own print (`ofText?_text`), whichever run of zero groups is
left out of it and wherever that run stands. Without a colon there is no such address.
-/

namespace Telnet.Address.V6

open Text

variable {groups front back : List Nat}

/-! ### Groups -/

theorem group?_hex {g : Nat} (h : g < groupSize) : group? (hex 1 g) = some g := by
  have hne : Nat.toDigits 16 g ≠ [] := Nat.toDigits_ne_nil
  have hlength : (Nat.toDigits 16 g).length ≤ 4 :=
    (Nat.length_toDigits_le_iff (by decide) (by decide)).2 h
  have hshape :
      ((Nat.toDigits 16 g).isEmpty || decide (4 < (Nat.toDigits 16 g).length)) = false := by
    simpa [hne] using hlength
  rw [group?, hex_one, hshape, if_neg Bool.false_ne_true, ofHexDigits?_toDigits]

theorem hex_ne_nil (g : Nat) : hex 1 g ≠ [] := by
  rw [hex_one]
  exact Nat.toDigits_ne_nil

theorem mapM_group? (h : ∀ g ∈ groups, g < groupSize) :
    (groups.map (hex 1)).mapM group? = some groups :=
  mapM_map_some fun g hg => group?_hex (h g hg)

/-- The fields in print of the groups on one side of the gap. No group at all makes an empty field.
-/
def printed (groups : List Nat) : List (List Char) :=
  if groups = [] then [[]] else groups.map (hex 1)

theorem printed_ne_nil (groups : List Nat) : printed groups ≠ [] := by
  unfold printed
  split <;> simp [*]

theorem fields_joined (groups : List Nat) : fields ':' (joined groups) = printed groups := by
  cases groups with
  | nil => rfl
  | cons g rest =>
    refine fields_join (by simp) fun field hfield => ?_
    obtain ⟨g', -, rfl⟩ := List.mem_map.1 hfield
    exact notMem_hex (by decide) g'

theorem mem_printed {field : List Char} (h : field ∈ printed groups) :
    field = [] ∨ ∃ g, field = hex 1 g := by
  unfold printed at h
  split at h
  · exact .inl (List.mem_singleton.1 h)
  · obtain ⟨g, -, rfl⟩ := List.mem_map.1 h
    exact .inr ⟨g, rfl⟩

theorem side?_printed (h : ∀ g ∈ groups, g < groupSize) : side? (printed groups) = some groups := by
  cases groups with
  | nil => rfl
  | cons g rest =>
    have hfirst : hex 1 g ≠ [] := hex_ne_nil g
    have hone : (g :: rest).map (hex 1) ≠ [[]] := by
      intro hone
      exact hfirst (List.cons.inj hone).1
    rw [printed, if_neg (List.cons_ne_nil g rest), side?, if_neg hone, mapM_group? h]

/-! ### The gap -/

theorem gap?_cons (first : List Char) {second : List Char} (h : second ≠ [])
    (rest : List (List Char)) :
    gap? (first :: second :: rest) =
      (gap? (second :: rest)).map fun sides => (first :: sides.1, sides.2) := by
  obtain ⟨c, cs, rfl⟩ := List.exists_cons_of_ne_nil h
  cases rest <;> rfl

theorem gap?_of_ne_nil {fields : List (List Char)} (h : ∀ field ∈ fields, field ≠ []) :
    gap? fields = none := by
  induction fields with
  | nil => rfl
  | cons first rest ih =>
    have hrest : gap? rest = none := ih fun field hfield => h field (List.mem_cons_of_mem _ hfield)
    cases rest with
    | nil => rfl
    | cons second others =>
      have hsecond : second ≠ [] := h second (by simp)
      rw [gap?_cons first hsecond, hrest]
      rfl

/-- The gap is found behind any fields of which all but the first one hold something. -/
theorem gap?_append (first : List Char) {front back : List (List Char)}
    (hfront : ∀ field ∈ front, field ≠ []) (hback : back ≠ []) :
    gap? (first :: (front ++ [] :: back)) = some (first :: front, back) := by
  induction front generalizing first with
  | nil =>
    obtain ⟨second, others, rfl⟩ := List.exists_cons_of_ne_nil hback
    rfl
  | cons second rest ih =>
    have hsecond : second ≠ [] := hfront second List.mem_cons_self
    have hrest := ih second fun field hfield => hfront field (List.mem_cons_of_mem second hfield)
    rw [List.cons_append, gap?_cons first hsecond, hrest]
    rfl

theorem gap?_printed (front back : List Nat) :
    gap? (printed front ++ [] :: printed back) = some (printed front, printed back) := by
  cases front with
  | nil => exact gap?_append [] (fun field hfield => nomatch hfield) (printed_ne_nil back)
  | cons g rest =>
    have hrest : ∀ field ∈ rest.map (hex 1), field ≠ [] := by
      intro field hfield
      obtain ⟨g', -, rfl⟩ := List.mem_map.1 hfield
      exact hex_ne_nil g'
    exact gap?_append (hex 1 g) hrest (printed_ne_nil back)

/-! ### All groups -/

theorem groups?_whole (hcount : groups.length = 8) (hsmall : ∀ g ∈ groups, g < groupSize) :
    groups? (groups.map (hex 1)) = some groups := by
  have hgap : gap? (groups.map (hex 1)) = none := by
    refine gap?_of_ne_nil fun field hfield => ?_
    obtain ⟨g, -, rfl⟩ := List.mem_map.1 hfield
    exact hex_ne_nil g
  simp [groups?, hgap, mapM_group? hsmall, hcount]

theorem groups?_parted {count : Nat} (hcount : front.length + (count + back.length) = 8)
    (hpos : 0 < count) (hfront : ∀ g ∈ front, g < groupSize) (hback : ∀ g ∈ back, g < groupSize) :
    groups? (printed front ++ [] :: printed back) =
      some (front ++ (List.replicate count 0 ++ back)) := by
  have hleft : 8 - (front.length + back.length) = count := by omega
  have hshort : front.length + back.length < 8 := by omega
  simp [groups?, gap?_printed, side?_printed hfront, side?_printed hback, hshort, hleft]

/-- A list of groups is the run of zeros at an index with what stands on its two sides. -/
theorem eq_append_run (groups : List Nat) (i : Nat) :
    groups = groups.take i ++
      (List.replicate (runAt groups i) 0 ++ groups.drop (i + runAt groups i)) := by
  let zeros := (groups.drop i).takeWhile (· = 0)
  let others := (groups.drop i).dropWhile (· = 0)
  have hrun : groups.drop i = zeros ++ others := List.takeWhile_append_dropWhile.symm
  have hzeros : zeros = List.replicate (runAt groups i) 0 := by
    refine List.eq_replicate_iff.2 ⟨rfl, fun g hg => ?_⟩
    exact of_decide_eq_true (List.mem_takeWhile_imp (p := (· = 0)) hg)
  have hothers : groups.drop (i + runAt groups i) = others := by
    rw [← List.drop_drop, hrun]
    exact List.drop_left' rfl
  rw [← hzeros, hothers, ← hrun, List.take_append_drop]

/-- In print the groups stand in full, or some zeros among them are left out. -/
theorem textOfGroups_cases (groups : List Nat) :
    textOfGroups groups = joined groups ∨ ∃ front count back, 1 < count ∧
      groups = front ++ (List.replicate count 0 ++ back) ∧
      textOfGroups groups = joined front ++ ':' :: ':' :: joined back := by
  let start := longestRun groups
  by_cases hcount : 1 < runAt groups start
  · refine .inr ⟨groups.take start, runAt groups start, groups.drop (start + runAt groups start),
      hcount, eq_append_run groups start, ?_⟩
    have htext : textOfGroups groups = joined (groups.take start) ++ [':', ':'] ++
        joined (groups.drop (start + runAt groups start)) := if_pos hcount
    rw [htext, List.append_assoc]
    rfl
  · exact .inl (if_neg hcount)

theorem fields_parted (front back : List Nat) :
    fields ':' (joined front ++ ':' :: ':' :: joined back) =
      printed front ++ [] :: printed back := by
  have hgap : fields ':' (':' :: joined back) = [] :: fields ':' (joined back) := by simp [fields]
  rw [fields_append, hgap, fields_joined, fields_joined]

theorem plainFields?_of_notMem {fields : List (List Char)} (h : ∀ field ∈ fields, '.' ∉ field) :
    plainFields? fields = some fields := by
  unfold plainFields?
  cases hlast : fields.getLast? with
  | none => rfl
  | some last =>
    have hdot : '.' ∉ last := h last (List.mem_of_getLast? hlast)
    simp [hdot]

theorem dot_notMem_printed {field : List Char} (h : field ∈ printed groups) : '.' ∉ field := by
  rcases mem_printed h with rfl | ⟨g, rfl⟩
  · exact List.not_mem_nil
  · exact notMem_hex (by decide) g

/-- The groups of an address are read from their print. -/
theorem groups?_textOfGroups (hcount : groups.length = 8) (hsmall : ∀ g ∈ groups, g < groupSize) :
    (plainFields? (fields ':' (textOfGroups groups))).bind groups? = some groups := by
  rcases textOfGroups_cases groups with htext | ⟨front, count, back, hpos, rfl, htext⟩
  · have hne : groups ≠ [] := List.ne_nil_of_length_pos (by omega)
    have hfields : fields ':' (joined groups) = groups.map (hex 1) := by
      rw [fields_joined, printed, if_neg hne]
    have hplain : plainFields? (fields ':' (joined groups)) = some (groups.map (hex 1)) := by
      rw [← hfields]
      refine plainFields?_of_notMem fun field hfield => ?_
      rw [fields_joined] at hfield
      exact dot_notMem_printed hfield
    rw [htext, hplain, Option.bind_some, groups?_whole hcount hsmall]
  · have hplain : plainFields? (printed front ++ [] :: printed back) =
        some (printed front ++ [] :: printed back) := by
      refine plainFields?_of_notMem fun field hfield => ?_
      rcases List.mem_append.1 hfield with hfront | hback
      · exact dot_notMem_printed hfront
      · rcases List.mem_cons.1 hback with rfl | hback
        · exact List.not_mem_nil
        · exact dot_notMem_printed hback
    have hfront : ∀ g ∈ front, g < groupSize := fun g hg => hsmall g (by simp [hg])
    have hback : ∀ g ∈ back, g < groupSize := fun g hg => hsmall g (by simp [hg])
    rw [List.length_append, List.length_append, List.length_replicate] at hcount
    rw [htext, fields_parted, hplain, Option.bind_some,
      groups?_parted hcount (by omega) hfront hback]

/-! ### Addresses -/

theorem ofText?_text (a : Fin size) : ofText? (V6.text a) = some a := by
  have hsmall : ∀ g ∈ Place.digits groupSize 8 a.val, g < groupSize :=
    fun g hg => Place.lt_of_mem_digits (by decide) hg
  have hgroups := groups?_textOfGroups (Place.length_digits groupSize 8 a.val) hsmall
  obtain ⟨plain, hplain, hread⟩ := Option.bind_eq_some_iff.1 hgroups
  have hvalue : Place.value groupSize (Place.digits groupSize 8 a.val) = a.val :=
    Place.value_digits a.isLt
  simp [ofText?, V6.text, hplain, hread, hvalue]

theorem groups?_of_length_le {fields : List (List Char)} (h : fields.length ≤ 2) :
    groups? fields = none := by
  rcases fields with _ | ⟨first, _ | ⟨second, _ | ⟨third, rest⟩⟩⟩
  · rfl
  · cases hfirst : group? first <;> simp [groups?, gap?, hfirst]
  · cases hfirst : group? first <;> cases hsecond : group? second <;>
      simp [groups?, gap?, hfirst, hsecond]
  · simp only [List.length_cons] at h
    omega

/-- A text without a colon has one field, or two if it is dotted, and never eight groups. -/
theorem ofText?_of_notMem {text : List Char} (h : ':' ∉ text) : ofText? text = none := by
  rw [ofText?, fields_of_notMem h]
  by_cases hdot : '.' ∈ text
  · cases hv4 : V4.ofText? text with
    | none => simp [plainFields?, hdot, hv4]
    | some a =>
      have hshort : groups? ((Place.digits groupSize 2 a.val).map (hex 1)) = none :=
        groups?_of_length_le (by simp)
      simp [plainFields?, hdot, hv4, hshort]
  · have hshort : groups? [text] = none := groups?_of_length_le (by simp)
    simp [plainFields?, hdot, hshort]

theorem colon_mem_text (a : Fin size) : ':' ∈ V6.text a := by
  by_contra hnone
  have hread := ofText?_text a
  rw [ofText?_of_notMem hnone] at hread
  cases hread

/-- Digits, small letters from `a` to `f` and colons are all there is in the text of an address. -/
theorem notMem_text {c : Char} (hc : hexValue? c = none) (hcolon : c ≠ ':') (a : Fin size) :
    c ∉ V6.text a := by
  have hjoined : ∀ groups, c ∉ joined groups := by
    intro groups hmem
    rcases mem_join hmem with hc' | ⟨field, hfield, hc'⟩
    · exact hcolon hc'
    · obtain ⟨g, -, rfl⟩ := List.mem_map.1 hfield
      exact notMem_hex hc g hc'
  rcases textOfGroups_cases (Place.digits groupSize 8 a.val) with h | ⟨front, count, back, -, -, h⟩
  · rw [V6.text, h]
    exact hjoined _
  · rw [V6.text, h]
    simp [hjoined, hcolon]

end Telnet.Address.V6
