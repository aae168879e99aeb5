/-!
# Fields

A text cut at every occurrence of a separator, and fields joined with it.
-/

namespace Telnet.Text

/-- The fields between the separators; there is one more of them than there are separators. -/
def fields (separator : Char) : List Char → List (List Char)
  | [] => [[]]
  | c :: rest =>
    if c = separator then [] :: fields separator rest
    else match fields separator rest with
      | [] => [[c]]
      | first :: others => (c :: first) :: others

def join (separator : Char) : List (List Char) → List Char
  | [] => []
  | [field] => field
  | field :: others => field ++ separator :: join separator others

/-- The text in front of the first separator, and the text behind it if there is one. -/
def cut (separator : Char) : List Char → List Char × Option (List Char)
  | [] => ([], none)
  | c :: rest =>
    if c = separator then ([], some rest)
    else let (front, back) := cut separator rest; (c :: front, back)

theorem fields_ne_nil (separator : Char) (text : List Char) : fields separator text ≠ [] := by
  cases text with
  | nil => simp [fields]
  | cons c rest =>
    simp only [fields]
    split
    · simp
    · split <;> simp

theorem join_cons_cons (separator c : Char) (first : List Char) (others : List (List Char)) :
    join separator ((c :: first) :: others) = c :: join separator (first :: others) := by
  cases others <;> rfl

/-- Joining the fields gives the text back. -/
theorem join_fields (separator : Char) (text : List Char) :
    join separator (fields separator text) = text := by
  induction text with
  | nil => rfl
  | cons c rest ih =>
    simp only [fields]
    split
    · rename_i h
      obtain ⟨first, others, hf⟩ := List.exists_cons_of_ne_nil (fields_ne_nil separator rest)
      rw [hf] at ih ⊢
      rw [join, List.nil_append, ih, h]
      exact fun hnil => nomatch hnil
    · split
      · rename_i hf
        exact absurd hf (fields_ne_nil separator rest)
      · rename_i first others hf
        rw [join_cons_cons, ← hf, ih]

theorem fields_append (separator : Char) (front back : List Char) :
    fields separator (front ++ separator :: back) =
      fields separator front ++ fields separator back := by
  induction front with
  | nil => simp [fields]
  | cons c rest ih =>
    simp only [List.cons_append, fields, ih]
    split
    · rfl
    · obtain ⟨first, others, hf⟩ := List.exists_cons_of_ne_nil (fields_ne_nil separator rest)
      rw [hf]
      rfl

theorem fields_of_notMem {separator : Char} {field : List Char} (h : separator ∉ field) :
    fields separator field = [field] := by
  induction field with
  | nil => rfl
  | cons c rest ih =>
    have hc : c ≠ separator := fun hc => h (by simp [hc])
    have hrest : separator ∉ rest := fun hmem => h (List.mem_cons_of_mem c hmem)
    rw [fields, if_neg hc, ih hrest]

/-- Fields without the separator are the fields of the text that they are joined to. -/
theorem fields_join {separator : Char} {fs : List (List Char)} (hne : fs ≠ [])
    (h : ∀ field ∈ fs, separator ∉ field) : fields separator (join separator fs) = fs := by
  induction fs with
  | nil => exact absurd rfl hne
  | cons field others ih =>
    have hfield : fields separator field = [field] := fields_of_notMem (h field (by simp))
    cases others with
    | nil => exact hfield
    | cons next rest =>
      have hothers := ih (by simp) fun f hf => h f (List.mem_cons_of_mem field hf)
      have hjoin : join separator (field :: next :: rest) =
          field ++ separator :: join separator (next :: rest) := rfl
      rw [hjoin, fields_append, hfield, hothers]
      rfl

theorem mem_join {separator c : Char} {fs : List (List Char)} (h : c ∈ join separator fs) :
    c = separator ∨ ∃ field ∈ fs, c ∈ field := by
  induction fs with
  | nil => cases h
  | cons field others ih =>
    cases others with
    | nil => exact .inr ⟨field, List.mem_singleton_self field, h⟩
    | cons next rest =>
      have hjoin : join separator (field :: next :: rest) =
          field ++ separator :: join separator (next :: rest) := rfl
      rw [hjoin, List.mem_append, List.mem_cons] at h
      rcases h with hfield | hseparator | hothers
      · exact .inr ⟨field, List.mem_cons_self, hfield⟩
      · exact .inl hseparator
      · rcases ih hothers with hseparator | ⟨other, hother, hc⟩
        · exact .inl hseparator
        · exact .inr ⟨other, List.mem_cons_of_mem field hother, hc⟩

theorem fst_cut (separator : Char) (text : List Char) :
    (cut separator text).1 = text.takeWhile (· ≠ separator) := by
  induction text with
  | nil => rfl
  | cons c rest ih =>
    by_cases hc : c = separator
    · simp [cut, hc]
    · simp [cut, hc, ih]

theorem snd_cut (separator : Char) (text : List Char) :
    (cut separator text).2.getD [] = (text.dropWhile (· ≠ separator)).tail := by
  induction text with
  | nil => rfl
  | cons c rest ih =>
    by_cases hc : c = separator
    · simp [cut, hc]
    · simp [cut, hc, ih]

theorem cut_append {separator : Char} {front : List Char} (h : separator ∉ front)
    (back : List Char) : cut separator (front ++ separator :: back) = (front, some back) := by
  induction front with
  | nil => simp [cut]
  | cons c rest ih =>
    have hc : c ≠ separator := fun hc => h (by simp [hc])
    have hrest : separator ∉ rest := fun hmem => h (List.mem_cons_of_mem c hmem)
    rw [List.cons_append, cut, if_neg hc, ih hrest]

theorem cut_of_notMem {separator : Char} {text : List Char} (h : separator ∉ text) :
    cut separator text = (text, none) := by
  induction text with
  | nil => rfl
  | cons c rest ih =>
    have hc : c ≠ separator := fun hc => h (by simp [hc])
    have hrest : separator ∉ rest := fun hmem => h (List.mem_cons_of_mem c hmem)
    rw [cut, if_neg hc, ih hrest]

/-- A text that can be cut is put together again from its parts. -/
theorem eq_append_of_cut {separator : Char} {text front back : List Char}
    (h : cut separator text = (front, some back)) : text = front ++ separator :: back := by
  induction text generalizing front with
  | nil => cases h
  | cons c rest ih =>
    by_cases hc : c = separator
    · rw [cut, if_pos hc] at h
      cases h
      rw [hc]
      rfl
    · rw [cut, if_neg hc] at h
      cases hcut : cut separator rest with
      | mk first second =>
        rw [hcut] at h
        cases h
        rw [List.cons_append, ← ih hcut]

end Telnet.Text
