import Mathlib.Data.List.Forall2
import Telnet.Client
import Telnet.Proofs.Act

/-!
# A session in a block

Libraries of tasks are told apart by what they do when a block is left. `TaskLibrary.Documented`
says what holds for every one of them that keeps to its documentation, and `run_hold` how a session
goes in a block, which is the same for all libraries up to that point.

With tasks that are over as soon as they are cancelled, the block amounts to this: an error of the
client leaves it as it is, and any other failure in a group of its own (`run_holdOver_prompt`).
-/

namespace Telnet

/-! ### Exceptions -/

namespace Failure

mutual

/-- A failure that is raised: neither an interrupt of the user nor that something never comes, nor a
group with one of these in it. -/
def IsException : Failure → Prop
  | .interrupt _ | .stalled => False
  | .group inner => AreExceptions inner
  | _ => True

def AreExceptions : List Failure → Prop
  | [] => True
  | f :: rest => f.IsException ∧ AreExceptions rest

end

theorem isException_group {inner : List Failure} :
    (Failure.group inner).IsException ↔ ∀ f ∈ inner, f.IsException := by
  show AreExceptions inner ↔ _
  induction inner with
  | nil => simp [AreExceptions]
  | cons f rest ih => simp [AreExceptions, ih]

end Failure

variable {ω : Type}

/-! ### Libraries -/

/-- A task may end in such a way: it is cancelled, or it fails as its code does. -/
inductive Routine.EndsAs (task : Routine ω) : TaskEnding → Prop where
  | cancelled : EndsAs task .cancelled
  | opening {f : Failure} (h : task.opening = .error f) : EndsAs task (.failed f)
  | step {f : Failure} {s : ω} (h : (task.step.run s).outcome = .error f) : EndsAs task (.failed f)

/-- What is documented of a library. -/
structure TaskLibrary.Documented (lib : TaskLibrary ω) : Prop where
  /-- A block can be left if its tasks are cancelled, and if its body has failed, for then the
  library cancels them. -/
  leaves : ∀ group failure s, group.isCancelled = true ∨ failure.isSome = true →
    ∃ endings left, ((lib.leave group failure).run s).outcome = .ok (endings, left)
  /-- By then all tasks are over. -/
  ends : ∀ group failure s endings left,
    ((lib.leave group failure).run s).outcome = .ok (endings, left) →
      List.Forall₂ Routine.EndsAs group.tasks endings
  /-- Exceptions leave the block all together, in some order. -/
  raises : ∀ group failure s endings left,
    ((lib.leave group failure).run s).outcome = .ok (endings, left) →
      (∀ f, failure = some f → f.IsException) →
        let failures := failure.toList ++ endings.filterMap TaskEnding.failure?
        (failures = [] → left = none) ∧
          (failures ≠ [] → ∃ inner, left = some (.group inner) ∧ inner.Perm failures)
  /-- Until then nothing is done but what the tasks do. -/
  keeps : ∀ group failure (P : ω → Prop) E, (∀ task ∈ group.tasks, task.step.Leads P E P) →
    (lib.leave group failure).Leads P E P

theorem TaskLibrary.run_prompt {group : TaskGroup ω} (failure : Option Failure) (s : ω)
    (h : group.isCancelled = true ∨ failure.isSome = true) :
    (prompt.leave group failure).run s =
      ⟨.ok (group.tasks.map fun _ => .cancelled, failure.map fun f => .group [f]), s, []⟩ := by
  have hcancelled : (group.isCancelled || failure.isSome || group.tasks.isEmpty) = true := by
    rcases h with h | h <;> simp [h]
  simp only [prompt, hcancelled, if_true, Act.run_pure]

theorem TaskLibrary.prompt_ok {group : TaskGroup ω} {failure left : Option Failure} {s : ω}
    {endings : List TaskEnding}
    (h : ((prompt.leave group failure).run s).outcome = .ok (endings, left)) :
    endings = (group.tasks.map fun _ => .cancelled) ∧ left = failure.map fun f => .group [f] := by
  simp only [prompt] at h
  split at h
  · cases h
    exact ⟨rfl, rfl⟩
  · cases h

theorem TaskEnding.filterMap_cancelled {α : Type} (tasks : List α) :
    (tasks.map fun _ => TaskEnding.cancelled).filterMap failure? = [] := by
  induction tasks with
  | nil => rfl
  | cons task tasks ih => exact ih

theorem TaskLibrary.documented_prompt : (prompt : TaskLibrary ω).Documented where
  leaves group failure s h := ⟨_, _, congrArg Ran.outcome (run_prompt failure s h)⟩
  ends group failure s endings left h := by
    obtain ⟨rfl, -⟩ := prompt_ok h
    rw [List.forall₂_map_right_iff]
    exact List.forall₂_same.2 fun _ _ => .cancelled
  raises group failure s endings left h _ := by
    obtain ⟨rfl, rfl⟩ := prompt_ok h
    rw [TaskEnding.filterMap_cancelled, List.append_nil]
    cases failure <;> simp
  keeps group failure P E _ := by
    unfold prompt
    exact .ite (fun _ => .pure _) fun _ => .throw _

/-! ### The block -/

namespace Holding

theorem run_conclude (h : Holding ω) :
    conclude.run h = ⟨match h.kept with
      | some c => .error (.client c)
      | none => .ok h.pump.session, h, []⟩ := by
  rcases h with ⟨group, endings, _ | c, stage, pump⟩ <;> simp [conclude, Act.run_bind_eq]

/-- How a block goes on whose body has ended. -/
theorem run_leave (lib : TaskLibrary ω) (failure : Option Failure) (h : Holding ω) :
    let left := (lib.leave h.group failure).run h.pump.sides
    let r := (leave lib failure >>= fun _ => conclude).run h
    r.outcome = (match left.outcome with
      | .error f => .error f
      | .ok (_, some f) => .error f
      | .ok (_, none) => match h.kept with
        | some c => .error (.client c)
        | none => .ok h.pump.session) ∧
    r.state.endings = (match left.outcome with
      | .ok (endings, _) => endings
      | .error _ => h.endings) ∧
    r.state.pump.sides = left.state ∧ r.events = left.events.map .effect := by
  intro left r
  have hleft : (lib.leave h.group failure).run h.pump.sides = left := rfl
  have hr : r = (leave lib failure >>= fun _ => conclude).run h := rfl
  rcases left with ⟨f | ⟨endings, _ | f⟩, t, events⟩ <;>
    simp [hr, leave, onScope, Scope.within, Pump.onSides, run_conclude, Act.run_bind_eq, hleft]

variable [Sides ω]

/-- The failure of a session with which the body of its block ends. -/
def passed? : Except Failure Unit → Option Failure
  | .error (.client _) => none
  | outcome => failure? outcome

theorem passed?_eq_some {outcome : Except Failure Unit} {f : Failure} :
    passed? outcome = some f ↔ outcome = .error f ∧ ∀ c, f ≠ .client c := by
  cases outcome with
  | ok => simp [passed?, failure?]
  | error g =>
    rw [Except.error.injEq]
    constructor
    · intro h
      cases g with
      | client c => cases h
      | _ => cases h; exact ⟨rfl, fun c hc => by cases hc⟩
    · rintro ⟨rfl, hother⟩
      cases g with
      | client c => exact absurd rfl (hother c)
      | _ => rfl

def kept? : Except Failure Unit → Option ClientError
  | .error (.client c) => some c
  | _ => none

def tasks (lib : TaskLibrary ω) (routes : Bool) : List (Routine ω) :=
  if routes then [routing lib] else []

theorem run_body (lib : TaskLibrary ω) (routes : Bool) (p : Pump ω) :
    let ran := Pump.conduct.run (.outside, p)
    let r := (body lib routes).run (.start p)
    failure? r.outcome = passed? ran.outcome ∧
      r.state = ⟨⟨tasks lib routes, true⟩, [], kept? ran.outcome, ran.state.1, ran.state.2⟩ ∧
      r.events = ran.events := by
  intro ran r
  have hran : Pump.conduct.run (.outside, p) = ran := rfl
  have hr : r = (body lib routes).run (.start p) := rfl
  rcases ran with ⟨f | _, state, events⟩
  · cases routes <;> cases f <;>
      simp [hr, body, start, startTask, onScope, keep, cancel, tasks, passed?, kept?, failure?,
        Act.run_bind_eq, hran]
  · cases routes <;>
      simp [hr, body, start, startTask, onScope, cancel, tasks, passed?, kept?, failure?,
        Act.run_bind_eq, hran]

/-- How a session goes in a block, and how the library leaves the block then. -/
theorem run_hold (lib : TaskLibrary ω) (routes : Bool) (p : Pump ω) :
    let ran := Pump.conduct.run (.outside, p)
    let left := (lib.leave ⟨tasks lib routes, true⟩ (passed? ran.outcome)).run ran.state.2.sides
    let r := (hold lib routes).run (.start p)
    r.outcome = (match left.outcome with
      | .error f => .error f
      | .ok (_, some f) => .error f
      | .ok (_, none) => match kept? ran.outcome with
        | some c => .error (.client c)
        | none => .ok ran.state.2.session) ∧
    r.state.endings = (match left.outcome with
      | .ok (endings, _) => endings
      | .error _ => []) ∧
    r.state.pump.sides = left.state ∧ r.events = ran.events ++ left.events.map .effect := by
  intro ran left r
  obtain ⟨hfailure, hstate, hevents⟩ := run_body lib routes p
  have hleave := run_leave lib (passed? ran.outcome) ((body lib routes).run (.start p)).state
  have hr : r = (hold lib routes).run (.start p) := rfl
  rw [hold, Act.run_bind_eq] at hr
  simp only [Act.run_attempt, hfailure, hevents] at hr
  rw [hr]
  rw [hstate] at hleave ⊢
  obtain ⟨houtcome, hendings, hsides, hleft⟩ := hleave
  exact ⟨houtcome, hendings, hsides, congrArg (ran.events ++ ·) hleft⟩

end Holding

namespace Call

variable [Sides ω]

/-- The failure that leaves the block of a session, if no task fails. -/
def leaveGroup : Failure → Failure
  | .client c => .client c
  | f => .group [f]

/-- A pump that is conducted over some sides, with the session that is left. -/
def conduct (pump : ω → Pump ω) : Act Event ω Session := fun s =>
  let ran := Pump.conduct.run (.outside, pump s)
  ⟨match ran.outcome with
    | .ok () => .ok ran.state.2.session
    | .error f => .error (leaveGroup f),
    ran.state.2.sides, ran.events⟩

/-- If no task fails then a block adds nothing but a group around a failure. -/
theorem run_holdOver_prompt (routes : Bool) (pump : ω → Pump ω) (endings : List TaskEnding)
    (s : ω) :
    let r := (holdOver .prompt routes pump).run (endings, s)
    let ran := (conduct pump).run s
    r.outcome = ran.outcome ∧ r.state.2 = ran.state ∧ r.events = ran.events := by
  intro r ran
  obtain ⟨houtcome, -, hsides, hevents⟩ := Holding.run_hold .prompt routes (pump s)
  rw [TaskLibrary.run_prompt _ _ (.inl rfl)] at houtcome hsides hevents
  refine ⟨houtcome.trans ?_, hsides, hevents.trans (List.append_nil _)⟩
  show _ = match (Pump.conduct.run (.outside, pump s)).outcome with
    | .ok () => Except.ok (Pump.conduct.run (.outside, pump s)).state.2.session
    | .error f => .error (leaveGroup f)
  cases (Pump.conduct.run (.outside, pump s)).outcome with
  | ok => rfl
  | error f => cases f <;> rfl

end Call

end Telnet
