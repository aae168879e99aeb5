import Telnet.Proofs.Endpoint
import Telnet.Proofs.Resolution
import Telnet.Proofs.Session.Failing

/-!
# How a session leaves its block

A block is left when all its tasks are over, and then every failure leaves it in one group. That is
why an error of the client is kept until the block is left, and raised then: it leaves as it is, if
no task has failed. `hold_spec` says so for every library of tasks that keeps to its documentation,
and `run_in_group` for a whole call.
-/

namespace Telnet

variable {ω : Type}

/-! ### Tasks that end -/

namespace Routine

def NeverFails (task : Routine ω) : Prop :=
  task.opening = .ok () ∧ ∀ s, (task.step.run s).outcome = .ok ()

structure Raises (task : Routine ω) : Prop where
  opening : ∀ f, task.opening = .error f → f.IsException
  step : ∀ s f, (task.step.run s).outcome = .error f → f.IsException

theorem NeverFails.ends {task : Routine ω} {ending : TaskEnding} (h : task.NeverFails)
    (hends : task.EndsAs ending) : ending = .cancelled := by
  obtain ⟨hopening, hstep⟩ := h
  cases hends with
  | cancelled => rfl
  | opening hfails =>
    rw [hopening] at hfails
    cases hfails
  | @step f s hfails =>
    rw [hstep s] at hfails
    cases hfails

theorem NeverFails.raises {task : Routine ω} (h : task.NeverFails) : task.Raises where
  opening f hf := by
    rw [h.1] at hf
    cases hf
  step s f hf := by
    rw [h.2 s] at hf
    cases hf

theorem Raises.ends {task : Routine ω} {f : Failure} (h : task.Raises)
    (hends : task.EndsAs (.failed f)) : f.IsException := by
  cases hends with
  | opening hfails => exact h.opening f hfails
  | step hfails => exact h.step _ f hfails

variable {tasks : List (Routine ω)} {endings : List TaskEnding}

theorem exists_of_mem_endings (hends : List.Forall₂ EndsAs tasks endings) {ending : TaskEnding}
    (hending : ending ∈ endings) : ∃ task ∈ tasks, task.EndsAs ending := by
  induction hends with
  | nil => cases hending
  | @cons task first tasks others hfirst hothers ih =>
    rcases List.mem_cons.1 hending with rfl | hother
    · exact ⟨task, List.mem_cons_self, hfirst⟩
    · obtain ⟨other, hmem, hends⟩ := ih hother
      exact ⟨other, List.mem_cons_of_mem task hmem, hends⟩

theorem cancelled_of_neverFails (hends : List.Forall₂ EndsAs tasks endings)
    (h : ∀ task ∈ tasks, task.NeverFails) : ∀ ending ∈ endings, ending = .cancelled := by
  intro ending hending
  obtain ⟨task, htask, hend⟩ := exists_of_mem_endings hends hending
  exact (h task htask).ends hend

theorem exception_of_raises (hends : List.Forall₂ EndsAs tasks endings)
    (h : ∀ task ∈ tasks, task.Raises) :
    ∀ f ∈ endings.filterMap TaskEnding.failure?, f.IsException := by
  intro f hf
  obtain ⟨ending, hending, hfails⟩ := List.mem_filterMap.1 hf
  obtain ⟨task, htask, hend⟩ := exists_of_mem_endings hends hending
  cases ending with
  | cancelled => cases hfails
  | failed g =>
    obtain rfl := Option.some.inj hfails
    exact (h task htask).ends hend

end Routine

namespace Holding

variable {lib : TaskLibrary ω} [Sides ω]

/-- A session in a block comes to its end, and by then all tasks are over. -/
theorem ends_hold (hlib : lib.Documented) (routes : Bool) (p : Pump ω) :
    List.Forall₂ Routine.EndsAs (tasks lib routes)
      ((hold lib routes).run (.start p)).state.endings := by
  obtain ⟨-, hendings, -, -⟩ := run_hold lib routes p
  -- Whatever became of the session, the body has cancelled the tasks.
  obtain ⟨endings, left, hleft⟩ := hlib.leaves ⟨tasks lib routes, true⟩
    (passed? (Pump.conduct.run (.outside, p)).outcome) _ (.inl rfl)
  rw [hendings, hleft]
  exact hlib.ends _ _ _ _ _ hleft

/-- How a session that raises exceptions only leaves its block. If no task has failed, the session
is returned or its failure is raised, that of the client as it is and any other in a group. -/
theorem hold_spec (hlib : lib.Documented) (routes : Bool) (p : Pump ω)
    (hexceptions : ∀ f, (Pump.conduct.run (.outside, p)).outcome = .error f → f.IsException) :
    let ran := Pump.conduct.run (.outside, p)
    let r := (hold lib routes).run (.start p)
    let failures := r.state.endings.filterMap TaskEnding.failure?
    (failures = [] → r.outcome = match ran.outcome with
      | .ok () => .ok ran.state.2.session
      | .error f => .error (Call.leaveGroup f)) ∧
    (failures ≠ [] → ∃ inner, r.outcome = .error (.group inner) ∧
      inner.Perm ((passed? ran.outcome).toList ++ failures)) := by
  intro ran r failures
  obtain ⟨houtcome, hendings, -, -⟩ := run_hold lib routes p
  obtain ⟨endings, left, hleft⟩ :=
    hlib.leaves ⟨tasks lib routes, true⟩ (passed? ran.outcome) ran.state.2.sides (.inl rfl)
  rw [hleft] at houtcome hendings
  change r.outcome = _ at houtcome
  have hfailures : failures = endings.filterMap TaskEnding.failure? :=
    congrArg (List.filterMap TaskEnding.failure?) hendings
  obtain ⟨hnothing, hgroup⟩ := hlib.raises _ _ _ _ _ hleft fun f hpassed =>
    hexceptions f (passed?_eq_some.1 hpassed).1
  rw [hfailures]
  refine ⟨fun hnone => ?_, fun hsome => ?_⟩
  · rw [hnone, List.append_nil] at hnothing hgroup
    cases hpassed : passed? ran.outcome with
    | none =>
      -- An error of the client was kept, so nothing has failed for the library.
      have hleaves : left = none := hnothing (by rw [hpassed]; rfl)
      rw [houtcome, hleaves]
      cases hran : ran.outcome with
      | ok => rfl
      | error f =>
        cases f with
        | client c => rfl
        | _ => rw [hran] at hpassed; cases hpassed
    | some f =>
      obtain ⟨hran, hother⟩ := passed?_eq_some.1 hpassed
      rw [hpassed] at hgroup
      obtain ⟨inner, hinner, hperm⟩ := hgroup (List.cons_ne_nil f [])
      rw [houtcome, hinner, List.perm_singleton.1 hperm, hran]
      cases f with
      | client c => exact absurd rfl (hother c)
      | _ => rfl
  · obtain ⟨inner, hinner, hperm⟩ := hgroup fun hnone => hsome (List.append_eq_nil_iff.1 hnone).2
    exact ⟨inner, by rw [houtcome, hinner], hperm⟩

/-- To leave a block does to the sides what its tasks do. -/
theorem sides_hold (hlib : lib.Documented) (routes : Bool) {P : ω → Prop}
    (hinterrupt : (Sides.interrupt : Act Effect ω Unit).Leads P (fun _ => True) P) {p : Pump ω}
    (h : P (Pump.conduct.run (.outside, p)).state.2.sides) :
    P ((hold lib routes).run (.start p)).state.pump.sides := by
  obtain ⟨-, -, hsides, -⟩ := run_hold lib routes p
  rw [hsides]
  refine (hlib.keeps _ _ P (fun _ => True) ?_ _ h).1
  intro task htask
  cases routes with
  | false => cases htask
  | true =>
    obtain rfl := List.mem_singleton.1 htask
    exact hinterrupt

end Holding

namespace Call

/-! ### What a call raises -/

theorem exception_found {resolver : Resolver} {host : String} {f : Failure}
    (hresolver : ∀ g, Resolution.answer resolver = .error g → g.IsException)
    (h : Resolution.found resolver host = .error f) : f.IsException := by
  rcases Resolution.found_cases resolver host with ⟨a, -, hfound⟩ | hfound | ⟨given, -, hfound⟩ |
    ⟨g, hanswer, hfound⟩
  · rw [hfound] at h
    cases h
  · rw [hfound] at h
    cases h
    trivial
  · rw [hfound, Answer.address] at h
    split at h
    · cases h
    · cases h
      trivial
  · rw [hfound] at h
    have hg := hresolver g hanswer
    obtain rfl := Except.error.inj h
    cases g with
    | interrupt details | stalled => exact hg.elim
    | system e | encoding details => trivial
    | _ => exact hg

theorem exception_refuses {call : Call} {f : Failure}
    (hterm : ∀ g, call.term = .error g → g.IsException)
    (hresolver : ∀ g, Resolution.answer call.resolver = .error g → g.IsException)
    (h : call.Refuses f) : f.IsException := by
  cases h with
  | goal hgoal =>
    rcases goal_error_iff.1 hgoal with htext | ⟨endpoint, -, hfound⟩
    · obtain ⟨fault, rfl⟩ := Endpoint.value_of_ofText htext
      trivial
    · exact exception_found hresolver hfound
  | term hgoal hnone => exact hterm f hnone

/-- How a call ends whose session goes like this and whose tasks end like that. If no task fails,
then a session is returned that is closed and has no connection; or an error of the client is raised
as it is; or any other failure as the only one of a group. -/
inductive Concludes :
    Except Failure Unit → List TaskEnding → Except Failure Session → Prop
  | returned {endings : List TaskEnding} {session : Session}
      (hnone : endings.filterMap TaskEnding.failure? = []) (hstate : session.state = .closed)
      (hhandle : session.hasHandle = false) : Concludes (.ok ()) endings (.ok session)
  | client {endings : List TaskEnding} (hnone : endings.filterMap TaskEnding.failure? = [])
      (c : ClientError) : Concludes (.error (.client c)) endings (.error (.client c))
  | alone {endings : List TaskEnding} (hnone : endings.filterMap TaskEnding.failure? = [])
      {f : Failure} (hother : ∀ c, f ≠ .client c) :
      Concludes (.error f) endings (.error (.group [f]))
  | together {course : Except Failure Unit} {endings : List TaskEnding} {inner : List Failure}
      (hsome : endings.filterMap TaskEnding.failure? ≠ [])
      (hinner : inner.Perm ((Holding.passed? course).toList ++
        endings.filterMap TaskEnding.failure?)) :
      Concludes course endings (.error (.group inner))

theorem Concludes.eq_alone {f : Failure} {endings : List TaskEnding}
    {outcome : Except Failure Session} (h : Concludes (.error f) endings outcome)
    (hother : ∀ c, f ≠ .client c) (hnone : endings.filterMap TaskEnding.failure? = []) :
    outcome = .error (.group [f]) := by
  cases h with
  | client _ c => exact absurd rfl (hother c)
  | alone => rfl
  | together hsome => exact absurd hnone hsome

/-- If the session and its tasks fail with exceptions, then so does the call. -/
theorem Concludes.exception {course : Except Failure Unit} {endings : List TaskEnding}
    {outcome : Except Failure Session} (h : Concludes course endings outcome)
    (hcourse : ∀ f, course = .error f → f.IsException)
    (htasks : ∀ f ∈ endings.filterMap TaskEnding.failure?, f.IsException) {f : Failure}
    (hf : outcome = .error f) : f.IsException := by
  cases h with
  | returned => cases hf
  | client hnone c =>
    cases hf
    trivial
  | alone hnone hother =>
    cases hf
    exact Failure.isException_group.2 (by simpa using hcourse _ rfl)
  | together hsome hinner =>
    cases hf
    refine Failure.isException_group.2 fun g hg => ?_
    rcases List.mem_append.1 (hinner.mem_iff.1 hg) with hown | htask
    · exact hcourse g (Holding.passed?_eq_some.1 (Option.mem_toList.1 hown)).1
    · exact htasks g htask

variable [Sides ω] {lib : TaskLibrary ω} {isOpen : ω → Prop} {call : Call} {s : ω} {p : Pump ω}

/-- Everything that a call meets with raises exceptions only. -/
structure Orderly (lib : TaskLibrary ω) (call : Call) (s : ω) : Prop where
  term : ∀ f, call.term = .error f → f.IsException
  resolver : ∀ f, Resolution.answer call.resolver = .error f → f.IsException
  polls : ∀ poll ∈ call.polls, ∀ f, poll.ready = .error f → f.IsException
  tasks : ∀ task ∈ Holding.tasks lib call.routesInterrupts, task.Raises
  sides : ∃ fresh opened connected, Sides.Raises call.limit fresh opened connected ∧ fresh s

theorem Orderly.course (h : call.Orderly lib s) (hp : call.Holds s p) {f : Failure}
    (hf : p.course = .error f) : f.IsException := by
  obtain ⟨fresh, opened, connected, hraises, hfresh⟩ := h.sides
  obtain ⟨hgoal, hterm⟩ := hp
  exact Pump.exception_course hraises hfresh h.polls hf

section

variable (hlib : lib.Documented) (hsides : Sides.Connections isOpen)
  (hexceptions : ∀ f, p.course = .error f → f.IsException)

include hlib hsides hexceptions

theorem concludes_hold (routes : Bool) :
    let r := (Holding.hold lib routes).run (.start p)
    Concludes p.course r.state.endings r.outcome := by
  intro r
  have hcourse := Pump.outcome_conduct hsides p
  obtain ⟨halone, htogether⟩ := Holding.hold_spec hlib routes p (by rwa [hcourse])
  rw [hcourse] at halone htogether
  by_cases hnone : r.state.endings.filterMap TaskEnding.failure? = []
  · have houtcome : r.outcome = _ := halone hnone
    rw [houtcome]
    cases hgoes : p.course with
    | ok =>
      obtain ⟨hstate, hhandle, -⟩ := Pump.session_conduct hsides hgoes
      exact .returned hnone hstate hhandle
    | error f =>
      cases f with
      | client c => exact .client hnone c
      | _ => exact .alone hnone fun c hc => by cases hc
  · obtain ⟨inner, houtcome, hperm⟩ := htogether hnone
    change r.outcome = _ at houtcome
    rw [houtcome]
    exact .together hnone hperm

/-- With tasks that are cancelled a call ends as it does with tasks that are over at once. -/
theorem outcome_hold (hp : call.Holds s p) :
    let r := (Holding.hold lib call.routesInterrupts).run (.start p)
    (∀ ending ∈ r.state.endings, ending = .cancelled) → r.outcome = (call.run.run s).outcome := by
  intro r hcancelled
  have hcourse := Pump.outcome_conduct hsides p
  obtain ⟨halone, -⟩ := Holding.hold_spec hlib call.routesInterrupts p (by rwa [hcourse])
  have hnone : r.state.endings.filterMap TaskEnding.failure? = [] := by
    rw [List.filterMap_eq_nil_iff]
    intro ending hending
    rw [hcancelled ending hending]
    rfl
  have houtcome : r.outcome = _ := halone hnone
  obtain ⟨-, -, hrun, -⟩ := run_of_holds hsides hp
  rw [houtcome, hcourse]
  exact hrun.symm

end

/-- A call ends in one of two ways. Before there is a block, it fails with the failure itself, and no
task is started. From then on all its tasks come to their end; and if only exceptions are raised, it
ends as its session and its tasks do. No connection is left open. Tasks that cannot fail are
cancelled, and then the call ends as it does without them. If only exceptions are raised then a call
raises exceptions only, and does not wait for ever. -/
theorem run_in_group (hlib : lib.Documented) (hsides : Sides.Connections isOpen) (call : Call)
    (s : ω) (hclosed : ¬isOpen s) :
    let r := (call.runIn lib).run ([], s)
    ((∃ f, call.Refuses f ∧ r.outcome = .error f ∧ r.state = ([], s)) ∨
      ∃ p, call.Holds s p ∧
        List.Forall₂ Routine.EndsAs (Holding.tasks lib call.routesInterrupts) r.state.1 ∧
        (call.Orderly lib s → Concludes p.course r.state.1 r.outcome)) ∧
    ¬isOpen r.state.2 ∧
    ((∀ task ∈ Holding.tasks lib call.routesInterrupts, task.NeverFails) →
      (∀ ending ∈ r.state.1, ending = .cancelled) ∧
        (call.Orderly lib s → r.outcome = (call.run.run s).outcome)) ∧
    (call.Orderly lib s → ∀ f, r.outcome = .error f → f.IsException) := by
  intro r
  rcases call.stages s with ⟨g, hrefuses⟩ | ⟨p, hp⟩
  · have hr : r.outcome = .error g ∧ r.state = ([], s) := runIn_of_refuses lib hrefuses s
    rw [hr.1, hr.2, (run_of_refuses hrefuses s).1]
    refine ⟨.inl ⟨g, hrefuses, rfl, rfl⟩, hclosed, fun _ => ⟨by simp, fun _ => rfl⟩,
      fun horderly f hf => ?_⟩
    cases hf
    exact exception_refuses horderly.term horderly.resolver hrefuses
  · obtain ⟨houtcome, hstate⟩ := runIn_of_holds lib hp
    change r.outcome = _ at houtcome
    change r.state = _ at hstate
    have hends := Holding.ends_hold hlib call.routesInterrupts p
    have hopen : ¬isOpen (Pump.conduct.run (.outside, p)).state.2.sides :=
      Pump.not_open_conduct hsides ((run_of_holds hsides hp).1 ▸ hclosed)
    have hconcludes := fun horderly : call.Orderly lib s =>
      concludes_hold hlib hsides (fun f => horderly.course hp) call.routesInterrupts
    rw [houtcome, hstate]
    refine ⟨.inr ⟨p, hp, hends, hconcludes⟩,
      Holding.sides_hold hlib call.routesInterrupts hsides.interrupt hopen, fun hnever => ?_,
      fun horderly f hf => ?_⟩
    · have hcancelled := Routine.cancelled_of_neverFails hends hnever
      exact ⟨hcancelled, fun horderly =>
        outcome_hold hlib hsides (fun f => horderly.course hp) hp hcancelled⟩
    · exact (hconcludes horderly).exception (fun f => horderly.course hp)
        (Routine.exception_of_raises hends horderly.tasks) hf

/-- A poll that fails ends the session. Its failure leaves in a group, by itself, and the task for
interrupts is over. -/
theorem run_in_group_of_failing_poll :
    let f := Failure.value (.reported [.text "no such handle"])
    let call : Call :=
      ⟨"10.0.0.1", .endless, .ok .standard, .service (.ok []), [⟨false, .error f⟩], true⟩
    let s : Surroundings := ⟨.fresh .pipe Console.standardMode [] none, .fresh .silent⟩
    let r := (call.runIn .prompt).run ([], s)
    ¬s.network.Open ∧ call.Orderly .prompt s ∧ r.outcome = .error (.group [f]) ∧
      r.state.1 = [.cancelled] ∧ ¬r.state.2.network.Open := by
  intro f call s r
  have hclosed : ¬s.network.Open := by
    rintro ⟨link, hlink, -⟩
    cases hlink
  have hgoal : call.goal = .ok (⟨"10.0.0.1", 23⟩, .v4 167772161) := by decide
  have hnever : ∀ task ∈ Holding.tasks (ω := Surroundings) .prompt true, task.NeverFails := by
    intro task htask
    obtain rfl := List.mem_singleton.1 htask
    exact ⟨rfl, fun _ => rfl⟩
  have horderly : call.Orderly .prompt s := by
    constructor
    case term => exact fun g hg => by cases hg
    case resolver =>
      intro g hg
      cases hg
      trivial
    case polls =>
      intro poll hpoll g hg
      obtain rfl := List.mem_singleton.1 hpoll
      cases hg
      trivial
    case tasks => exact fun task htask => (hnever task htask).raises
    case sides =>
      have hraises : Socket.silent.Raises := by
        constructor <;> (intro g hg; cases hg)
      have htimely : Socket.silent.Timely call.limit := by
        constructor
        case raises => exact hraises
        all_goals (intro hhangs; cases hhangs)
      have hfresh : s.Orderly call.limit := by
        constructor
        case socket => exact htimely
        all_goals (intro g hg; cases hg)
      exact ⟨_, _, _, Surroundings.raises call.limit, hfresh⟩
  obtain ⟨hends, hafter, hcancelled, -⟩ :=
    run_in_group TaskLibrary.documented_prompt Surroundings.connections call s hclosed
  rcases hends with ⟨g, ⟨hrefused⟩ | ⟨-, hnone⟩, -⟩ | ⟨p, hp, hforall, hconcludes⟩
  · rw [hgoal] at hrefused
    cases hrefused
  · cases hnone
  · have hcourse : p.course = .error f := by
      cases hp
      rfl
    have hover : r.state.1 = [.cancelled] :=
      List.eq_replicate_iff.2 ⟨hforall.length_eq.symm, (hcancelled hnever).1⟩
    have hother : ∀ c, Failure.value (.reported [.text "no such handle"]) ≠ .client c :=
      fun c hc => by cases hc
    have hconcluded := hconcludes horderly
    rw [hcourse] at hconcluded
    have houtcome : r.outcome = .error (.group [f]) :=
      hconcluded.eq_alone hother (by rw [hover]; rfl)
    exact ⟨hclosed, horderly, houtcome, hover, hafter⟩

end Call

end Telnet
