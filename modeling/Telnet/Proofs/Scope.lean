import Mathlib.Data.List.Induction
import Telnet.Proofs.Act
import Telnet.Scope

/-!
# Scopes entered and left in any order

A scope is entered and left again and again, and each call may fail. An entry is refused as long as
an earlier one has not been left, also one that failed: a scope whose entry failed stays closed to
further entries until it is left (`refused_until_left`). Of a body that was begun, the end is
reached when the scope is left, behind what is released there.
-/

namespace Telnet.Scope

variable {ε σ α : Type} (scope : Scope ε σ α)

/-! ### One call -/

/-- What is released on leaving, if there is anything. -/
def releasing : Act ε σ Unit :=
  match scope.release with
  | some release => if scope.isShielded then release else inTime release
  | none => pure ()

/-- What follows behind the release: only inside the scope there is a body to conclude. -/
def closing : Stage → Option Failure → Act ε σ Bool
  | .outside, _ => throw .absentPart
  | .inside, failure => scope.conclude failure
  | .broken, none => return false
  | .broken, some _ => throw (.usage .bodyOver)

def stageAfter : Except Failure α → Stage
  | .ok _ => .inside
  | .error _ => .broken

/-- The outcome of an action that is given up if it never ends. -/
def timely : Except Failure Unit → Except Failure Unit
  | .error .stalled => .ok ()
  | outcome => outcome

theorem run_inTime (x : Act ε σ Unit) (t : σ) :
    (inTime x).run t = ⟨timely (x.run t).outcome, (x.run t).state, (x.run t).events⟩ := by
  have hcatch : (inTime x).run t = _ := Act.run_tryCatch x _ t
  rw [hcatch]
  rcases x.run t with ⟨f | _, u, es⟩
  · cases f <;> simp [timely]
  · rfl

variable {scope} {s : Stage × σ}

theorem run_enter_of_outside (h : s.1 = .outside) :
    let ran := scope.begin_.run s.2
    scope.enter.run s = ⟨ran.outcome, (stageAfter ran.outcome, ran.state), ran.events⟩ := by
  cases hbegun : (scope.begin_.run s.2).outcome <;>
    simp [enter, move, within, Act.run_bind_eq, h, hbegun, stageAfter, Except.map]

theorem run_enter_of_not_outside (h : s.1 ≠ .outside) :
    scope.enter.run s = ⟨.error (.usage .alreadyEntered), s, []⟩ := by
  simp [enter, Act.run_bind_eq, h]

theorem run_leave (failure : Option Failure) (s : Stage × σ) :
    let ran := (scope.releasing >>= fun _ => scope.closing s.1 failure).run s.2
    (scope.leave failure).run s = ⟨ran.outcome, (.outside, ran.state), ran.events⟩ := by
  rcases s with ⟨stage, t⟩
  rcases scope with ⟨begin_, conclude, release, isShielded⟩
  cases release with
  | none =>
    cases stage <;> cases failure <;>
      simp [leave, move, within, releasing, closing, Act.run_bind_eq, Except.map]
  | some release =>
    cases hreleased : ((if isShielded then release else inTime release).run t).outcome <;>
      cases stage <;> cases failure <;>
        simp [leave, move, within, releasing, closing, Act.run_bind_eq, hreleased]

/-- A failure is over when the scope is left exactly if its body says so. -/
theorem leave_ok_true_iff (failure : Option Failure) (s : Stage × σ) :
    ((scope.leave failure).run s).outcome = .ok true ↔
      s.1 = .inside ∧ (scope.releasing.run s.2).outcome = .ok () ∧
        ((scope.conclude failure).run (scope.releasing.run s.2).state).outcome = .ok true := by
  rw [run_leave, Act.run_bind_eq]
  cases hreleased : (scope.releasing.run s.2).outcome with
  | error f => simp
  | ok => cases hstage : s.1 <;> cases failure <;> simp [closing]

/-! ### Many calls -/

inductive Crossing where
  | enter
  | leave (failure : Option Failure)

variable (scope)

def cross : Crossing → Act ε (Stage × σ) Unit
  | .enter => discard scope.enter
  | .leave failure => discard (scope.leave failure)

def after (crossings : List Crossing) (s : Stage × σ) : Stage × σ :=
  crossings.foldl (fun s c => ((scope.cross c).run s).state) s

/-- An entry has not been left, and it was made after crossings with `P`. -/
def Pending (P : List Crossing → Prop) (crossings : List Crossing) : Prop :=
  ∃ before later, crossings = before ++ .enter :: later ∧ (∀ c ∈ later, c = .enter) ∧ P before

/-- An entry has not been left, whether it succeeded or failed. -/
def Unleft (crossings : List Crossing) : Prop := Pending (fun _ => True) crossings

/-- An entry that succeeded has not been left. -/
def IsOpen (t : σ) (crossings : List Crossing) : Prop :=
  Pending (fun before => ∃ a, (scope.enter.run (scope.after before (.outside, t))).outcome = .ok a)
    crossings

variable {P : List Crossing → Prop} {crossings : List Crossing} {t : σ}

theorem after_concat (c : Crossing) :
    scope.after (crossings ++ [c]) s = ((scope.cross c).run (scope.after crossings s)).state := by
  rw [after, List.foldl_append]
  rfl

theorem pending_nil : ¬Pending P [] := by
  rintro ⟨before, later, heq, -⟩
  cases before <;> cases heq

theorem pending_enter : Pending P (crossings ++ [.enter]) ↔ P crossings ∨ Pending P crossings := by
  constructor
  · rintro ⟨before, later, heq, hlater, hbefore⟩
    cases later using List.reverseRecOn with
    | nil =>
      obtain ⟨rfl, -⟩ := List.append_inj' heq rfl
      exact .inl hbefore
    | append_singleton later c =>
      rw [← List.cons_append, ← List.append_assoc] at heq
      obtain ⟨rfl, -⟩ := List.append_inj' heq rfl
      exact .inr ⟨before, later, rfl, fun d hd => hlater d (by simp [hd]), hbefore⟩
  · rintro (h | ⟨before, later, rfl, hlater, hbefore⟩)
    · exact ⟨crossings, [], rfl, by simp, h⟩
    · refine ⟨before, later ++ [.enter], by simp, fun c hc => ?_, hbefore⟩
      rcases List.mem_append.1 hc with hc | hc
      · exact hlater c hc
      · exact List.mem_singleton.1 hc

theorem not_pending_leave (failure : Option Failure) :
    ¬Pending P (crossings ++ [.leave failure]) := by
  rintro ⟨before, later, heq, hlater, -⟩
  have hlast := congrArg List.getLast? heq
  rw [List.getLast?_concat, List.getLast?_append, List.getLast?_cons] at hlast
  have hmem : Crossing.leave failure ∈ Crossing.enter :: later := by
    rw [← List.getLast?_cons] at hlast
    exact List.mem_of_getLast? (by simpa using hlast.symm)
  rcases List.mem_cons.1 hmem with hmem | hmem
  · cases hmem
  · cases hlater _ hmem

/-- The stage says which entries have not been left. -/
theorem stage_after (t : σ) (crossings : List Crossing) :
    ((scope.after crossings (.outside, t)).1 = .outside ↔ ¬Unleft crossings) ∧
      ((scope.after crossings (.outside, t)).1 = .inside ↔ scope.IsOpen t crossings) := by
  induction crossings using List.reverseRecOn with
  | nil => exact ⟨⟨fun _ => pending_nil, fun _ => rfl⟩, ⟨nofun, fun h => absurd h pending_nil⟩⟩
  | append_singleton crossings c ih =>
    rw [after_concat]
    cases c with
    | leave failure =>
      rw [cross, Act.discard_eq, Act.run_map, run_leave]
      exact ⟨⟨fun _ => not_pending_leave failure, fun _ => rfl⟩,
        ⟨nofun, fun h => absurd h (not_pending_leave failure)⟩⟩
    | enter =>
      obtain ⟨houtside, hinside⟩ := ih
      rw [Unleft, pending_enter, IsOpen, pending_enter, ← IsOpen, ← hinside, cross, Act.discard_eq,
        Act.run_map]
      by_cases hstage : (scope.after crossings (.outside, t)).1 = .outside
      · rw [run_enter_of_outside hstage, hstage]
        cases (scope.begin_.run (scope.after crossings (.outside, t)).2).outcome <;>
          simp [stageAfter]
      · rw [run_enter_of_not_outside hstage]
        simp [hstage]

/-! ### Bodies that are begun and ended -/

inductive Mark where
  | begun
  | released
  | ended
  deriving DecidableEq, Repr

def marked : Scope (Mark ⊕ ε) σ α where
  begin_ := do
    let a ← scope.begin_.mapEvents .inr
    .emit (.inl .begun)
    return a
  conclude failure := do
    .emit (.inl .ended)
    (scope.conclude failure).mapEvents .inr
  release := scope.release.map fun release => do
    .emit (.inl .released)
    release.mapEvents .inr
  isShielded := scope.isShielded

def marks (es : List (Mark ⊕ ε)) : List Mark := es.filterMap Sum.getLeft?

def trace : List Crossing → Stage × σ → List ε
  | [], _ => []
  | c :: rest, s => ((scope.cross c).run s).events ++ trace rest ((scope.cross c).run s).state

@[simp] theorem marks_nil : marks ([] : List (Mark ⊕ ε)) = [] := rfl

@[simp] theorem marks_append (a b : List (Mark ⊕ ε)) : marks (a ++ b) = marks a ++ marks b :=
  List.filterMap_append

@[simp] theorem marks_cons (mark : Mark) (es : List (Mark ⊕ ε)) :
    marks (.inl mark :: es) = mark :: marks es := rfl

@[simp] theorem marks_inr (es : List ε) : marks (es.map Sum.inr) = [] := by
  induction es with
  | nil => rfl
  | cons e es ih => exact ih

theorem run_marked_begin (t : σ) :
    let ran := scope.begin_.run t
    scope.marked.begin_.run t = ⟨ran.outcome, ran.state, ran.events.map .inr ++
      match ran.outcome with
      | .ok _ => [.inl .begun]
      | .error _ => []⟩ := by
  cases hbegun : (scope.begin_.run t).outcome <;>
    simp [marked, Act.run_bind_eq, hbegun, Except.map]

theorem run_marked_releasing (t : σ) :
    let ran := scope.releasing.run t
    scope.marked.releasing.run t = ⟨ran.outcome, ran.state,
      (if scope.release.isSome then [.inl .released] else []) ++ ran.events.map .inr⟩ := by
  cases hrelease : scope.release <;> cases hshielded : scope.isShielded <;>
    simp [marked, releasing, run_inTime, Act.run_bind_eq, hrelease, hshielded]

theorem run_marked_closing (stage : Stage) (failure : Option Failure) (t : σ) :
    let ran := (scope.closing stage failure).run t
    (scope.marked.closing stage failure).run t = ⟨ran.outcome, ran.state,
      (if stage = .inside then [.inl .ended] else []) ++ ran.events.map .inr⟩ := by
  cases stage <;> cases failure <;> simp [marked, closing, Act.run_bind_eq]

theorem run_marked_closed (stage : Stage) (failure : Option Failure) (t : σ) :
    let ran := (scope.releasing >>= fun _ => scope.closing stage failure).run t
    let ran' := (scope.marked.releasing >>= fun _ => scope.marked.closing stage failure).run t
    ran'.outcome = ran.outcome ∧ ran'.state = ran.state ∧
      marks ran'.events = (if scope.release.isSome then [.released] else []) ++
        match (scope.releasing.run t).outcome with
        | .ok _ => if stage = .inside then [.ended] else []
        | .error _ => [] := by
  have hmark : ∀ (condition : Prop) [Decidable condition] (mark : Mark),
      marks (if condition then [.inl mark] else [] : List (Mark ⊕ ε)) =
        if condition then [mark] else [] := by
    intro condition _ mark
    split <;> rfl
  simp only [Act.run_bind_eq, run_marked_releasing, run_marked_closing]
  cases (scope.releasing.run t).outcome <;> simp [hmark]

/-- The marks change neither how a crossing goes nor where it leads. -/
theorem state_marked (c : Crossing) (s : Stage × σ) :
    ((scope.marked.cross c).run s).state = ((scope.cross c).run s).state := by
  cases c with
  | leave failure =>
    obtain ⟨-, hstate, -⟩ := scope.run_marked_closed s.1 failure s.2
    simp only [cross, Act.discard_eq, Act.run_map, run_leave, hstate]
  | enter =>
    simp only [cross, Act.discard_eq, Act.run_map]
    by_cases hstage : s.1 = .outside
    · rw [run_enter_of_outside hstage, run_enter_of_outside hstage, run_marked_begin]
    · rw [run_enter_of_not_outside hstage, run_enter_of_not_outside hstage]

def bodiesAt : Stage → Nat
  | .inside => 1
  | _ => 0

variable {scope}

/-- If nothing fails to be released, each crossing accounts for every body. -/
theorem bodies_cross (hreleases : ∀ u, (scope.releasing.run u).outcome = .ok ()) (c : Crossing)
    (s : Stage × σ) :
    let ran := (scope.marked.cross c).run s
    (marks ran.events).count .begun + bodiesAt s.1 =
      (marks ran.events).count .ended + bodiesAt ran.state.1 := by
  cases c with
  | leave failure =>
    obtain ⟨-, -, hmarks⟩ := scope.run_marked_closed s.1 failure s.2
    simp only [cross, Act.discard_eq, Act.run_map, run_leave, hmarks, hreleases]
    cases s.1 <;> cases scope.release.isSome <;> rfl
  | enter =>
    simp only [cross, Act.discard_eq, Act.run_map]
    by_cases hstage : s.1 = .outside
    · rw [run_enter_of_outside hstage, run_marked_begin, hstage]
      cases (scope.begin_.run s.2).outcome <;> simp [stageAfter, bodiesAt]
    · rw [run_enter_of_not_outside hstage]
      rfl

theorem bodies_trace (hreleases : ∀ u, (scope.releasing.run u).outcome = .ok ())
    (crossings : List Crossing) (s : Stage × σ) :
    let seen := marks (scope.marked.trace crossings s)
    seen.count .begun + bodiesAt s.1 =
      seen.count .ended + bodiesAt (scope.after crossings s).1 := by
  induction crossings generalizing s with
  | nil => simp [trace, marks, after]
  | cons c crossings ih =>
    have hfirst := bodies_cross hreleases c s
    have hrest := ih ((scope.cross c).run s).state
    simp only [state_marked] at hfirst
    simp only [trace, state_marked, marks_append, List.count_append]
    rw [after, List.foldl_cons, ← after]
    omega

/-! ### Crossings of every kind -/

/-- An entry is refused exactly as long as an earlier one has not been left, whether that succeeded
or failed; any other entry begins the body, and goes as its beginning does. To leave the scope
behind an entry that succeeded releases what there is to release, and then concludes the body, which
says whether a failure is over; no other way out ends a failure. If nothing fails to be released,
each body that was begun is ended once, on leaving the scope, and behind the release. -/
theorem refused_until_left (scope : Scope ε σ α) (t : σ) (crossings : List Crossing) :
    let s := scope.after crossings (.outside, t)
    let seen := marks (scope.marked.trace crossings (.outside, t))
    (Unleft crossings → scope.enter.run s = ⟨.error (.usage .alreadyEntered), s, []⟩) ∧
    (¬Unleft crossings →
      let ran := scope.begin_.run s.2
      scope.enter.run s = ⟨ran.outcome, (stageAfter ran.outcome, ran.state), ran.events⟩) ∧
    (∀ failure, scope.IsOpen t crossings →
      let ran := (scope.releasing >>= fun _ => scope.conclude failure).run s.2
      (scope.leave failure).run s = ⟨ran.outcome, (.outside, ran.state), ran.events⟩) ∧
    (∀ failure, ((scope.leave failure).run s).outcome = .ok true ↔
      scope.IsOpen t crossings ∧ (scope.releasing.run s.2).outcome = .ok () ∧
        ((scope.conclude failure).run (scope.releasing.run s.2).state).outcome = .ok true) ∧
    ((∀ u, (scope.releasing.run u).outcome = .ok ()) →
      (scope.IsOpen t crossings → seen.count .begun = seen.count .ended + 1 ∧
        ∀ failure, marks ((scope.marked.leave failure).run s).events =
          (if scope.release.isSome then [.released] else []) ++ [.ended]) ∧
      (¬scope.IsOpen t crossings → seen.count .begun = seen.count .ended)) := by
  intro s seen
  obtain ⟨houtside, hinside⟩ := scope.stage_after t crossings
  refine ⟨fun hunleft => ?_, fun hleft => ?_, fun failure hopen => ?_, fun failure => ?_,
    fun hreleases => ⟨fun hopen => ⟨?_, fun failure => ?_⟩, fun hclosed => ?_⟩⟩
  · exact run_enter_of_not_outside fun hstage => houtside.1 hstage hunleft
  · exact run_enter_of_outside (houtside.2 hleft)
  · have hleave := scope.run_leave failure s
    rw [hinside.2 hopen] at hleave
    exact hleave
  · rw [leave_ok_true_iff, hinside]
  · have hbodies := bodies_trace hreleases crossings (.outside, t)
    rw [hinside.2 hopen] at hbodies
    exact hbodies
  · obtain ⟨-, -, hmarks⟩ := scope.run_marked_closed s.1 failure s.2
    rw [hinside.2 hopen, hreleases] at hmarks
    rw [run_leave, hinside.2 hopen]
    exact hmarks
  · have hbodies := bodies_trace hreleases crossings (.outside, t)
    have hstage : bodiesAt (scope.after crossings (.outside, t)).1 = 0 := by
      cases h : (scope.after crossings (.outside, t)).1 with
      | inside => exact absurd (hinside.1 h) hclosed
      | _ => rfl
    rw [hstage] at hbodies
    exact hbodies

/-- What a sample scope does. -/
inductive Milestone where
  | began | released | caught | ended
  deriving DecidableEq, Repr

/-- A scope with the result 42. It may fail on entry, it may swallow failures about values, and it
may have something to release. -/
def sample (entryFailure : Option Failure) (swallows releases : Bool) : Scope Milestone Unit Nat where
  begin_ := do
    .emit .began
    match entryFailure with
    | some f => throw f
    | none => return 42
  conclude
    | some (.value _) => do
      .emit .caught
      .emit .ended
      return swallows
    | _ => do
      .emit .ended
      return false
  release := if releases then some (.emit .released) else none
  isShielded := false

/-- Inside a scope that swallows failures about values a second entry is refused, and to leave it
ends such a failure. -/
theorem refused_until_left_sample :
    let scope := sample none true true
    let s := scope.after [.enter] (.outside, ())
    scope.IsOpen () [.enter] ∧ scope.enter.run s = ⟨.error (.usage .alreadyEntered), s, []⟩ ∧
      ((scope.leave (some (.value .undefinedTime))).run s).outcome = .ok true ∧
      marks ((scope.marked.leave (some (.value .undefinedTime))).run s).events =
        [.released, .ended] := by
  have hopen : (sample none true true).IsOpen () [.enter] := ⟨[], [], rfl, by simp, 42, rfl⟩
  have hunleft : Unleft [.enter] := ⟨[], [], rfl, by simp, trivial⟩
  obtain ⟨hrefused, -, -, hover, hbodies⟩ :=
    refused_until_left (sample none true true) () [.enter]
  have hmarks := ((hbodies fun _ => rfl).1 hopen).2 (some (.value .undefinedTime))
  exact ⟨hopen, hrefused hunleft, (hover _).2 ⟨hopen, rfl, rfl⟩, hmarks⟩

/-- After an entry that failed the next one is refused, although there is nothing to leave. -/
theorem refused_after_failure :
    let scope := sample (some (.value .undefinedTime)) false false
    let s := scope.after [.enter] (.outside, ())
    ¬((scope.enter.run s).outcome = .error (.usage .alreadyEntered) ↔
      scope.IsOpen () [.enter]) := by
  intro scope s h
  have hstage : s.1 = .inside := (scope.stage_after () [.enter]).2.2 (h.1 rfl)
  cases hstage

end Telnet.Scope
