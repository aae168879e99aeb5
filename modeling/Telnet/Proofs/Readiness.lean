import Telnet.Readiness

/-!
# The handle that is reported

Waits end in rounds, and within a round in the order of their handles (`pairwise_endings`). The
first wait that ends in time writes its place into the progress, and no later one writes there again
(`ready_step`). So the place that is reported is that of the first wait that ends in time
(`ready_foldl_start`), and what ends after it does not matter.
-/

namespace Telnet.Readiness

/-! ### The order in which waits end -/

/-- In an earlier round, or in the same one with a handle further in front. -/
def Ending.Earlier (a b : Ending) : Prop :=
  a.round < b.round ∨ a.round = b.round ∧ a.place < b.place

/-- Waits that are sorted by their rounds alone stay in the order of their places within a round. -/
theorem pairwise_mergeSort {ends : List Ending} (h : ends.Pairwise fun a b => a.place < b.place) :
    (ends.mergeSort fun a b => decide (a.round ≤ b.round)).Pairwise Ending.Earlier := by
  have htrans : ∀ a b c : Ending, decide (a.round ≤ b.round) = true →
      decide (b.round ≤ c.round) = true → decide (a.round ≤ c.round) = true := by
    intro a b c hab hbc
    rw [decide_eq_true_iff] at hab hbc ⊢
    omega
  have htotal : ∀ a b : Ending,
      (decide (a.round ≤ b.round) || decide (b.round ≤ a.round)) = true := by
    intro a b
    rw [Bool.or_eq_true, decide_eq_true_iff, decide_eq_true_iff]
    omega
  induction h with
  | nil => simp
  | @cons e rest hfirst hrest ih =>
    -- The front wait is put behind those of earlier rounds and before all others.
    obtain ⟨front, back, hsort, hrest', hfront⟩ := List.mergeSort_cons htrans htotal e rest
    have hrounds := List.pairwise_mergeSort htrans htotal (e :: rest)
    rw [hsort] at hrounds ⊢
    rw [hrest', List.pairwise_append] at ih
    obtain ⟨hfronts, hbacks, hacross⟩ := ih
    have hback : ∀ b ∈ back, e.Earlier b := by
      intro b hb
      have hround : e.round ≤ b.round := by
        have hcons := (List.pairwise_append.1 hrounds).2.1
        simpa using List.rel_of_pairwise_cons hcons hb
      have hmem : b ∈ rest := by
        have hsorted : b ∈ front ++ back := List.mem_append_right front hb
        rwa [← hrest', List.mem_mergeSort] at hsorted
      have hplace := hfirst b hmem
      rw [Ending.Earlier]
      omega
    refine List.pairwise_append.2 ⟨hfronts, List.pairwise_cons.2 ⟨hback, hbacks⟩, ?_⟩
    intro a ha b hb
    rcases List.mem_cons.1 hb with rfl | hb
    · have hround : ¬ b.round ≤ a.round := by simpa using hfront a ha
      rw [Ending.Earlier]
      omega
    · exact hacross a ha b hb

theorem mem_endings (handles : List Handle) (e : Ending) :
    e ∈ endings handles ↔
      ∃ h, handles[e.place]? = some h ∧ h.after = some e.round ∧ h.failure = e.failure := by
  obtain ⟨round, place, failure⟩ := e
  simp only [endings, List.mem_mergeSort, List.mem_filterMap, Prod.exists,
    List.mem_zipIdx_iff_getElem?, Option.map_eq_some_iff, Ending.mk.injEq]
  constructor
  · rintro ⟨h, i, hget, r, hafter, rfl, rfl, rfl⟩
    exact ⟨h, hget, hafter, rfl⟩
  · rintro ⟨h, hget, hafter, rfl⟩
    exact ⟨h, place, hget, round, hafter, rfl, rfl, rfl⟩

theorem failure_of_mem_endings {handles : List Handle}
    (h : ∀ a ∈ handles, a.after.isSome = true → a.failure = none) :
    ∀ e ∈ endings handles, e.failure = none := by
  intro e he
  obtain ⟨a, hget, hafter, hfailure⟩ := (mem_endings handles e).1 he
  rw [← hfailure]
  exact h a (List.mem_of_getElem? hget) (by rw [hafter, Option.isSome_some])

theorem pairwise_endings (handles : List Handle) :
    (endings handles).Pairwise Ending.Earlier := by
  apply pairwise_mergeSort
  have hplaces : handles.zipIdx.Pairwise fun a b => a.2 < b.2 := by
    have hrange : (handles.zipIdx.map Prod.snd).Pairwise (· < ·) := by
      rw [List.zipIdx_map_snd]
      exact List.pairwise_lt_range'
    exact List.pairwise_map.1 hrange
  refine List.pairwise_filterMap.2 (hplaces.imp ?_)
  rintro ⟨h, i⟩ ⟨h', j⟩ hij e he e' he'
  simp only [Option.map_eq_some_iff] at he he'
  obtain ⟨round, -, rfl⟩ := he
  obtain ⟨round', -, rfl⟩ := he'
  exact hij

/-- A handle that never becomes readable ends no wait. -/
theorem endings_append {idle : List Handle} (h : ∀ a ∈ idle, a.after = none)
    (handles : List Handle) : endings (handles ++ idle) = endings handles := by
  have hnone : ∀ f : Handle × Nat → Option Ending, (∀ a i, a.after = none → f (a, i) = none) →
      (idle.zipIdx (0 + handles.length)).filterMap f = [] := by
    intro f hf
    rw [List.filterMap_eq_nil_iff]
    rintro ⟨a, i⟩ ha
    exact hf a i (h a (List.fst_mem_of_mem_zipIdx ha))
  simp only [endings, List.zipIdx_append, List.filterMap_append]
  rw [hnone, List.append_nil]
  intro a i ha
  simp only [ha, Option.map_none]

/-! ### What one ending does -/

@[simp] theorem ready_giveUpAt (p : Progress) (turn : Turn) :
    (p.giveUpAt turn).ready = p.ready := rfl

theorem ready_step {p : Progress} {place : Nat} (h : p.ready = some place) (e : Ending) :
    (p.step e).ready = some place := by
  rw [Progress.step]
  split
  · exact h
  · -- Becoming readable writes only where nothing stands; failures and interrupts write elsewhere.
    split <;> simp [h]

theorem ready_foldl {p : Progress} {place : Nat} (h : p.ready = some place) (ends : List Ending) :
    (ends.foldl Progress.step p).ready = some place := by
  induction ends generalizing p with
  | nil => exact h
  | cons e rest ih => exact ih (ready_step h e)

structure Progress.Quiet (p : Progress) : Prop where
  failures : p.failures = []
  interrupt : p.interrupt = none

theorem Progress.Quiet.step {p : Progress} (h : p.Quiet) {e : Ending} (he : e.failure = none) :
    (p.step e).Quiet := by
  rw [Progress.step, he]
  split
  · exact h
  · exact ⟨h.failures, h.interrupt⟩

theorem Progress.Quiet.foldl {p : Progress} (h : p.Quiet) {ends : List Ending}
    (hends : ∀ e ∈ ends, e.failure = none) : (ends.foldl Progress.step p).Quiet := by
  induction ends generalizing p with
  | nil => exact h
  | cons e rest ih =>
    have hfirst := h.step (hends e List.mem_cons_self)
    exact ih hfirst fun a ha => hends a (List.mem_cons_of_mem e ha)

/-! ### The first ending in time -/

def InTime (deadline : Option Nat) (round : Nat) : Prop := deadline.all fun last => round < last

instance (deadline : Option Nat) (round : Nat) : Decidable (InTime deadline round) :=
  inferInstanceAs (Decidable (_ = true))

theorem inTime_iff (deadline : Option Nat) (round : Nat) :
    InTime deadline round ↔ ∀ last, deadline = some last → round < last := by
  cases deadline <;> simp [InTime]

theorem InTime.of_le {deadline : Option Nat} {earlier round : Nat} (h : InTime deadline round)
    (hle : earlier ≤ round) : InTime deadline earlier := by
  rw [inTime_iff] at h ⊢
  intro last hlast
  exact Nat.lt_of_le_of_lt hle (h last hlast)

theorem giveUp_start (deadline : Option Nat) (e : Ending) :
    ((Progress.start deadline).giveUp.any fun turn => !Turn.before (e.round, e.place) turn) =
      !decide (InTime deadline e.round) := by
  cases deadline with
  | none => rfl
  | some last => simp [Progress.start, InTime, Turn.before]

theorem step_start_of_inTime {deadline : Option Nat} {e : Ending} (h : InTime deadline e.round)
    (he : e.failure = none) : ((Progress.start deadline).step e).ready = some e.place := by
  rw [Progress.step, giveUp_start, he]
  simp [h, Progress.start]

theorem step_start_of_late {deadline : Option Nat} {e : Ending} (h : ¬ InTime deadline e.round) :
    (Progress.start deadline).step e = .start deadline := by
  rw [Progress.step, giveUp_start]
  simp [h]

theorem foldl_start_of_late {deadline : Option Nat} {ends : List Ending}
    (h : ∀ e ∈ ends, ¬ InTime deadline e.round) :
    ends.foldl Progress.step (.start deadline) = .start deadline := by
  induction ends with
  | nil => rfl
  | cons e rest ih =>
    rw [List.foldl_cons, step_start_of_late (h e List.mem_cons_self)]
    exact ih fun a ha => h a (List.mem_cons_of_mem e ha)

/-- If the first wait ends too late, so do all others. -/
theorem ready_foldl_start (deadline : Option Nat) {ends : List Ending}
    (hsorted : ends.Pairwise Ending.Earlier) (hends : ∀ e ∈ ends, e.failure = none) :
    (ends.foldl Progress.step (.start deadline)).ready =
      (ends.find? fun e => InTime deadline e.round).map Ending.place := by
  cases ends with
  | nil => rfl
  | cons e rest =>
    by_cases h : InTime deadline e.round
    · rw [List.foldl_cons, List.find?_cons_of_pos (by simpa using h)]
      exact ready_foldl (step_start_of_inTime h (hends e List.mem_cons_self)) rest
    · have hlate : ∀ a ∈ e :: rest, ¬ InTime deadline a.round := by
        intro a ha hin
        rcases List.mem_cons.1 ha with rfl | ha
        · exact h hin
        · have hearlier := List.rel_of_pairwise_cons hsorted ha
          rw [Ending.Earlier] at hearlier
          exact h (hin.of_le (by omega))
      rw [foldl_start_of_late hlate, List.find?_eq_none.2 (by simpa using hlate)]
      rfl

/-! ### What is reported -/

/-- The wait for the handle at a place ends in a round that is in time. -/
def ReadyIn (handles : List Handle) (deadline : Option Nat) (place round : Nat) : Prop :=
  (∃ h, handles[place]? = some h ∧ h.after = some round) ∧
    ∀ last, deadline = some last → round < last

/-- The handle at a place becomes readable in time, none does in an earlier round, and none further
in front does in the same round. -/
def FirstReady (handles : List Handle) (deadline : Option Nat) (place : Nat) : Prop :=
  ∃ round, ReadyIn handles deadline place round ∧
    ∀ other later, ReadyIn handles deadline other later →
      round < later ∨ round = later ∧ place ≤ other

/-- The handle at a place is the first that need not be waited for. -/
def FirstUnpollable (handles : List Handle) (place : Nat) : Prop :=
  (∃ h, handles[place]? = some h ∧ h.isPollable = false) ∧
    ∀ other h, other < place → handles[other]? = some h → h.isPollable = true

theorem readyIn_iff (handles : List Handle) (deadline : Option Nat) (place round : Nat) :
    ReadyIn handles deadline place round ↔
      ∃ e ∈ endings handles, e.place = place ∧ e.round = round ∧ InTime deadline e.round := by
  rw [ReadyIn, ← inTime_iff]
  constructor
  · rintro ⟨⟨h, hget, hafter⟩, hin⟩
    exact ⟨⟨round, place, h.failure⟩, (mem_endings handles _).2 ⟨h, hget, hafter, rfl⟩,
      rfl, rfl, hin⟩
  · rintro ⟨e, he, rfl, rfl, hin⟩
    obtain ⟨h, hget, hafter, -⟩ := (mem_endings handles e).1 he
    exact ⟨⟨h, hget, hafter⟩, hin⟩

/-- What stands in front of the first ending in time is late, and nothing behind it is earlier. -/
theorem earlier_of_find? {deadline : Option Nat} {ends : List Ending} {e : Ending}
    (hsorted : ends.Pairwise Ending.Earlier)
    (h : ends.find? (fun e => InTime deadline e.round) = some e) {a : Ending} (ha : a ∈ ends)
    (hin : InTime deadline a.round) : a = e ∨ e.Earlier a := by
  obtain ⟨-, front, back, hends, hfront⟩ := List.find?_eq_some_iff_append.1 h
  rw [hends] at ha hsorted
  rcases List.mem_append.1 ha with ha | ha
  · exact absurd hin (by simpa using hfront a ha)
  · rcases List.mem_cons.1 ha with rfl | ha
    · exact .inl rfl
    · exact .inr (List.rel_of_pairwise_cons (List.pairwise_append.1 hsorted).2.1 ha)

theorem find?_endings_eq_some_iff (handles : List Handle) (deadline : Option Nat) (place : Nat) :
    ((endings handles).find? fun e => InTime deadline e.round).map Ending.place = some place ↔
      FirstReady handles deadline place := by
  have hready : ∀ e, (endings handles).find? (fun e => InTime deadline e.round) = some e →
      ReadyIn handles deadline e.place e.round := by
    intro e he
    have hin : InTime deadline e.round := by simpa using List.find?_some he
    exact (readyIn_iff _ _ _ _).2 ⟨e, List.mem_of_find?_eq_some he, rfl, rfl, hin⟩
  constructor
  · intro h
    obtain ⟨e, he, rfl⟩ := Option.map_eq_some_iff.1 h
    refine ⟨e.round, hready e he, ?_⟩
    intro other later hother
    obtain ⟨a, ha, rfl, rfl, hin⟩ := (readyIn_iff _ _ _ _).1 hother
    rcases earlier_of_find? (pairwise_endings handles) he ha hin with rfl | hearlier
    · exact .inr ⟨rfl, Nat.le_refl _⟩
    · rw [Ending.Earlier] at hearlier
      omega
  · rintro ⟨round, hplace, hleast⟩
    obtain ⟨a, ha, rfl, rfl, hin⟩ := (readyIn_iff _ _ _ _).1 hplace
    obtain ⟨e, he⟩ : ∃ e, (endings handles).find? (fun e => InTime deadline e.round) = some e := by
      rw [← Option.isSome_iff_exists, List.find?_isSome]
      exact ⟨a, ha, by simpa using hin⟩
    -- Neither of the two is before the other one, so they are the same.
    have hle := hleast e.place e.round (hready e he)
    rcases earlier_of_find? (pairwise_endings handles) he ha hin with rfl | hearlier
    · rw [he, Option.map_some]
    · rw [Ending.Earlier] at hearlier
      omega

theorem find?_endings_eq_none_iff (handles : List Handle) (deadline : Option Nat) :
    ((endings handles).find? fun e => InTime deadline e.round).map Ending.place = none ↔
      ∀ place round, ¬ ReadyIn handles deadline place round := by
  rw [Option.map_eq_none_iff, List.find?_eq_none]
  constructor
  · intro h place round hready
    obtain ⟨e, he, -, -, hin⟩ := (readyIn_iff _ _ _ _).1 hready
    exact h e he (by simpa using hin)
  · intro h e he hin
    exact h e.place e.round ((readyIn_iff _ _ _ _).2 ⟨e, he, rfl, rfl, by simpa using hin⟩)

theorem alwaysReady?_eq_some_iff (handles : List Handle) (place : Nat) :
    alwaysReady? handles = some place ↔ FirstUnpollable handles place := by
  rw [alwaysReady?, List.findIdx?_eq_some_iff_getElem]
  constructor
  · rintro ⟨hlt, hfound, hbefore⟩
    refine ⟨⟨handles[place], List.getElem?_eq_getElem hlt, by simpa using hfound⟩, ?_⟩
    intro other h hother hget
    obtain ⟨hlt', rfl⟩ := List.getElem?_eq_some_iff.1 hget
    simpa using hbefore other hother
  · rintro ⟨⟨h, hget, hfound⟩, hbefore⟩
    obtain ⟨hlt, rfl⟩ := List.getElem?_eq_some_iff.1 hget
    refine ⟨hlt, by simpa using hfound, ?_⟩
    intro other hother
    have hpollable := hbefore other _ hother (List.getElem?_eq_getElem (by omega))
    simpa using hpollable

theorem alwaysReady?_eq_none {handles : List Handle} (h : ∀ a ∈ handles, a.isPollable = true) :
    alwaysReady? handles = none := by
  rw [alwaysReady?, List.findIdx?_eq_none_iff]
  intro a ha
  rw [h a ha]
  rfl

/-- Only whether its handles are pollable matters. -/
theorem alwaysReady?_congr {handles others : List Handle}
    (h : others.map Handle.isPollable = handles.map Handle.isPollable) :
    alwaysReady? others = alwaysReady? handles := by
  have hflags : ∀ list : List Handle,
      alwaysReady? list = (list.map Handle.isPollable).findIdx? fun b => !b := by
    intro list
    rw [List.findIdx?_map]
    rfl
  rw [hflags, hflags, h]

theorem alwaysReady?_append {idle : List Handle} (h : ∀ a ∈ idle, a.isPollable = true)
    (handles : List Handle) : alwaysReady? (handles ++ idle) = alwaysReady? handles := by
  have hidle := alwaysReady?_eq_none h
  rw [alwaysReady?] at hidle ⊢
  rw [List.findIdx?_append, hidle, Option.map_none, Option.or_none, alwaysReady?]

theorem poll_of_unpollable {handles : List Handle} {place : Nat}
    (h : alwaysReady? handles = some place) (limit : Limit) (more : Option Nat) :
    poll handles limit more = .ok (some place) := by
  rw [poll, h]

theorem poll_of_unset {handles : List Handle} {limit : Limit} {f : Failure}
    (h : alwaysReady? handles = none) (hlimit : limit.check = .error f) (more : Option Nat) :
    poll handles limit more = .error (.outright f) := by
  rw [poll, h]
  simp only [hlimit]

/-- What is known after some of the waits have ended. -/
def progress (handles : List Handle) (deadline : Option Nat) (count : Nat) : Progress :=
  ((endings handles).take count).foldl Progress.step (.start deadline)

theorem poll_of_quiet {handles : List Handle} {limit : Limit}
    (h : alwaysReady? handles = none) (hlimit : limit.check = .ok ())
    (hquiet : ∀ a ∈ handles, a.after.isSome = true → a.failure = none) (more : Option Nat) :
    poll handles limit more =
      .ok ((endings handles).foldl Progress.step (.start (deadline? limit more))).ready := by
  have hstart : (Progress.start (deadline? limit more)).Quiet := ⟨rfl, rfl⟩
  have hend := hstart.foldl (failure_of_mem_endings hquiet)
  rw [poll, h]
  simp only [hlimit, hend.interrupt, hend.failures, List.isEmpty_nil, if_true]

/-- At no time is a handle known to be ready other than the one that is reported in the end. -/
theorem ready_progress (handles : List Handle) (deadline : Option Nat) (count : Nat) :
    (progress handles deadline count).ready = none ∨
      (progress handles deadline count).ready =
        ((endings handles).foldl Progress.step (.start deadline)).ready := by
  have hall : (endings handles).foldl Progress.step (.start deadline) =
      ((endings handles).drop count).foldl Progress.step (progress handles deadline count) := by
    rw [progress, ← List.foldl_append, List.take_append_drop]
  cases hready : (progress handles deadline count).ready with
  | none => exact .inl rfl
  | some place => exact .inr (by rw [hall, ready_foldl hready])

/-- A handle that need not be waited for is reported at once, the first one if there are several,
whatever the waits for the others would come to and whatever the limit is. If all have to be waited
for and no wait that ends fails, the handle that becomes readable in the earliest round is reported,
of several the one furthest in front, and none exactly if none becomes readable in time; as soon as
a handle is known to be ready, it is the one that is reported. Handles behind all others that never
become readable change nothing. -/
theorem poll_reports_first_ready (handles : List Handle) (limit : Limit) (more : Option Nat) :
    (∀ place, FirstUnpollable handles place → ∀ (others : List Handle) (limit' : Limit)
        (more' : Option Nat), others.map Handle.isPollable = handles.map Handle.isPollable →
        poll others limit' more' = .ok (some place)) ∧
      ((∀ a ∈ handles, a.isPollable = true) →
        (∀ f, limit.check = .error f → poll handles limit more = .error (.outright f)) ∧
        (limit.check = .ok () → (∀ a ∈ handles, a.after.isSome = true → a.failure = none) →
          ∃ found, poll handles limit more = .ok found ∧
            (∀ place, found = some place ↔ FirstReady handles (deadline? limit more) place) ∧
            (found = none ↔
              ∀ place round, ¬ ReadyIn handles (deadline? limit more) place round) ∧
            ∀ count, (progress handles (deadline? limit more) count).ready = none ∨
              (progress handles (deadline? limit more) count).ready = found)) ∧
      ∀ idle : List Handle, (∀ a ∈ idle, a.isPollable = true ∧ a.after = none) →
        poll (handles ++ idle) limit more = poll handles limit more := by
  refine ⟨fun place hplace others limit' more' hothers => ?_, fun hpollable => ⟨?_, ?_⟩, ?_⟩
  · have hsome := (alwaysReady?_eq_some_iff handles place).2 hplace
    rw [← alwaysReady?_congr hothers] at hsome
    exact poll_of_unpollable hsome limit' more'
  · intro f hf
    exact poll_of_unset (alwaysReady?_eq_none hpollable) hf more
  · intro hlimit hquiet
    have hfirst := ready_foldl_start (deadline? limit more) (pairwise_endings handles)
      (failure_of_mem_endings hquiet)
    refine ⟨_, poll_of_quiet (alwaysReady?_eq_none hpollable) hlimit hquiet more, ?_, ?_, ?_⟩
    · intro place
      rw [hfirst]
      exact find?_endings_eq_some_iff handles _ place
    · rw [hfirst]
      exact find?_endings_eq_none_iff handles _
    · exact ready_progress handles _
  · intro idle hidle
    rw [poll, poll, alwaysReady?_append (fun a ha => (hidle a ha).1),
      endings_append fun a ha => (hidle a ha).2]

/-- Two handles become readable in one round, one too late, and one never; a handle that need not be
waited for stands behind one whose wait the user would interrupt. -/
theorem poll_reports_first_ready_of_tie :
    let handles : List Handle :=
      [⟨true, some 6, none⟩, ⟨true, some 2, none⟩, ⟨true, none, some .stalled⟩,
        ⟨true, some 2, none⟩]
    let idle : List Handle := [⟨true, none, none⟩]
    let interrupted : List Handle := [⟨true, some 0, some (.interrupt [])⟩, ⟨false, none, none⟩]
    (∀ a ∈ handles, a.isPollable = true) ∧
      (∀ a ∈ handles, a.after.isSome = true → a.failure = none) ∧
      (Limit.ofInt 5).check = .ok () ∧ poll handles (.ofInt 5) (some 5) = .ok (some 1) ∧
      Limit.malformed.check = .error .wrongShape ∧
      poll handles .malformed = .error (.outright .wrongShape) ∧
      (∀ a ∈ idle, a.isPollable = true ∧ a.after = none) ∧
      poll (handles ++ idle) (.ofInt 5) (some 5) = .ok (some 1) ∧
      FirstUnpollable interrupted 1 ∧ poll interrupted .malformed = .ok (some 1) := by
  intro handles idle interrupted
  have hpollable : ∀ a ∈ handles, a.isPollable = true := by decide
  have hquiet : ∀ a ∈ handles, a.after.isSome = true → a.failure = none := by decide
  have hidle : ∀ a ∈ idle, a.isPollable = true ∧ a.after = none := by decide
  have hunpollable : FirstUnpollable interrupted 1 :=
    (alwaysReady?_eq_some_iff interrupted 1).1 (by decide)
  have hready : FirstReady handles (deadline? (.ofInt 5) (some 5)) 1 := by
    have hdeadline : deadline? (.ofInt 5) (some 5) = some 6 := by decide
    rw [hdeadline]
    refine ⟨2, ⟨⟨_, rfl, rfl⟩, by simp⟩, ?_⟩
    rintro other later ⟨⟨a, hget, hafter⟩, -⟩
    rcases other with _ | _ | _ | _ | other
    all_goals simp only [handles, List.getElem?_cons_zero, List.getElem?_cons_succ,
      List.getElem?_nil, Option.some.injEq, reduceCtorEq] at hget
    all_goals
      subst hget
      simp only [Option.some.injEq, reduceCtorEq] at hafter
    all_goals omega
  obtain ⟨-, hwaits, happend⟩ := poll_reports_first_ready handles (.ofInt 5) (some 5)
  obtain ⟨-, hwaits', -⟩ := poll_reports_first_ready handles .malformed none
  obtain ⟨hfirst, -⟩ := poll_reports_first_ready interrupted .malformed none
  obtain ⟨found, hfound, hplace, -⟩ := (hwaits hpollable).2 rfl hquiet
  rw [(hplace 1).2 hready] at hfound
  exact ⟨hpollable, hquiet, rfl, hfound, rfl, (hwaits' hpollable).1 _ rfl, hidle,
    (happend idle hidle).trans hfound, hunpollable,
    hfirst 1 hunpollable interrupted .malformed none rfl⟩

end Telnet.Readiness
