import Telnet.Proofs.Session.Turn

/-!
# Iterations

A run goes from one iteration to the next until the session is over or the user has ended it, and
then it finishes (`turns_eq`). `iterations` lists them, each with its poll and with the pump as it
found it; the trace of a run is made of the traces of its iterations (`events_run`).
-/

namespace Telnet

open Pump

/-- One iteration of a run: its poll, and the pump as the iteration finds it. -/
structure Iteration (ω : Type) where
  poll : Poll
  before : Pump ω

variable {ω : Type} [Sides ω]

namespace Iteration

def ran (i : Iteration ω) : Ran Event (Pump ω) Unit := (turn i.poll).run i.before

def polled (i : Iteration ω) : Ran Event (Pump ω) (Option Side) := (wait i.poll).run i.before

def lineRead (i : Iteration ω) : Ran Effect ω Bytes := Sides.readLine.run i.polled.state.sides

def chunkRead (i : Iteration ω) : Ran Effect ω (Option Bytes) :=
  (Sides.read (Sides.chunk i.polled.state.sides)).run i.polled.state.sides

def line? (i : Iteration ω) : Option Bytes :=
  match i.polled.outcome with
  | .ok (some .console) => i.lineRead.outcome.toOption
  | _ => none

/-- The chunk that was read and handed to the engine. -/
def chunk? (i : Iteration ω) : Option Bytes :=
  match i.polled.outcome, i.chunkRead.outcome with
  | .ok (some .remote), .ok (some chunk) => if chunk.isEmpty then none else some chunk
  | _, _ => none

def afterRead (i : Iteration ω) : Pump ω := { i.polled.state with sides := i.chunkRead.state }

def follows (i : Iteration ω) : Ran Event (Pump ω) Unit :=
  match i.chunkRead.outcome with
  | .ok none => ⟨.ok (), i.afterRead, []⟩
  | .ok (some chunk) =>
    if chunk.isEmpty then checkAlive.run i.afterRead else (receive chunk).run i.afterRead
  | .error f => ⟨.error f, i.afterRead, []⟩

/-- How the engine reads a chunk in the iteration. -/
def feeding (i : Iteration ω) (chunk : Bytes) : Ran Event (Pump ω) Fed :=
  (feed chunk).run i.afterRead

/-- What came of that chunk, unless the engine failed to switch the local echo. -/
def fed? (i : Iteration ω) : Option Fed :=
  i.chunk?.bind fun chunk => (i.feeding chunk).outcome.toOption

def Displays (i : Iteration ω) : Prop :=
  ∀ chunk fed, i.chunk? = some chunk → (i.feeding chunk).outcome = .ok fed →
    ((Sides.display fed.display).run (i.feeding chunk).state.sides).outcome = .ok ()

theorem ran_eq (i : Iteration ω) :
    i.ran = match i.polled.outcome with
      | .ok ready =>
        ⟨((transfer ready).run i.polled.state).outcome, ((transfer ready).run i.polled.state).state,
          i.polled.events ++ ((transfer ready).run i.polled.state).events⟩
      | .error f => ⟨.error f, i.polled.state, i.polled.events⟩ := by
  rw [ran, turn_eq, Act.run_bind_eq, polled]
  cases ((wait i.poll).run i.before).outcome <;> rfl

theorem run_transferChunk (i : Iteration ω) :
    transferChunk.run i.polled.state =
      ⟨i.follows.outcome, i.follows.state,
        .asked (.read (Sides.chunk i.polled.state.sides)) ::
          (i.chunkRead.events.map .effect ++ i.follows.events)⟩ :=
  Pump.run_transferChunk i.polled.state

theorem exists_of_fed? {i : Iteration ω} {fed : Fed} (h : i.fed? = some fed) :
    ∃ chunk, i.chunk? = some chunk ∧ fed = i.before.session.engine.feed chunk := by
  obtain ⟨chunk, hchunk, hfed⟩ := Option.bind_eq_some_iff.1 h
  refine ⟨chunk, hchunk, ?_⟩
  have hsession : i.afterRead.session = i.before.session := by
    show i.polled.state.session = i.before.session
    rw [polled, state_wait]
  cases hfeeding : (i.feeding chunk).outcome with
  | error f =>
    rw [hfeeding] at hfed
    cases hfed
  | ok fed' =>
    rw [hfeeding] at hfed
    cases hfed
    have hengine := eq_of_outcome_feed hfeeding
    rwa [hsession] at hengine

def sends (i : Iteration ω) : List Bytes :=
  match i.line?, i.fed? with
  | some line, _ => if line.isEmpty then [] else [line.networkEnds]
  | none, some fed => if fed.response.isEmpty then [] else [fed.response]
  | none, none => []

end Iteration

namespace Pump

def goesOn (p : Pump ω) : Bool := p.session.isConnected && !Sides.isCancelled p.sides

/-- The iterations for some polls. An iteration that fails is the last one. -/
def iterations : List Poll → Pump ω → List (Iteration ω)
  | [], p => if p.goesOn then [⟨.interrupting, p⟩] else []
  | poll :: rest, p =>
    if p.goesOn then
      let i : Iteration ω := ⟨poll, { p with polls := rest }⟩
      i :: match i.ran.outcome with
        | .ok () => iterations rest i.ran.state
        | .error _ => []
    else []

def whileOn (next : Act Event (Pump ω) Unit) : Act Event (Pump ω) Unit := do
  if (← get).goesOn then next

/-- The turns without what finishes them. -/
def loop : List Poll → Act Event (Pump ω) Unit
  | [] => whileOn (turn .interrupting)
  | poll :: rest => whileOn do
    modify fun p => { p with polls := rest }
    turn poll
    loop rest

def finish : Act Event (Pump ω) Unit := do
  if (← get).session.isConnected then cancel

theorem run_whileOn (next : Act Event (Pump ω) Unit) (p : Pump ω) :
    (whileOn next).run p = if p.goesOn then next.run p else ⟨.ok (), p, []⟩ := by
  rw [whileOn, Act.run_bind, Act.run_get]
  simp only [List.nil_append]
  split <;> rfl

theorem run_finish (p : Pump ω) :
    (finish : Act Event (Pump ω) Unit).run p =
      if p.session.isConnected then cancel.run p else ⟨.ok (), p, []⟩ := by
  rw [finish, Act.run_bind, Act.run_get]
  simp only [List.nil_append]
  split <;> rfl

/-- If the loop is not taken once more, the session is over or the user has ended it. -/
theorem unlessOver_eq (next : Act Event (Pump ω) Unit) :
    unlessOver (next >>= fun _ => finish) = whileOn next >>= fun _ => finish := by
  refine Act.ext fun p => ?_
  rw [run_unlessOver, Act.run_bind_eq (whileOn next), run_whileOn, goesOn]
  cases hconnected : p.session.isConnected with
  | false => simp [run_finish, hconnected]
  | true =>
    cases hcancelled : Sides.isCancelled p.sides with
    | true => simp [run_finish, hconnected]
    | false => simp [Act.run_bind_eq]

theorem turns_eq (polls : List Poll) :
    (turns polls : Act Event (Pump ω) Unit) = loop polls >>= fun _ => finish := by
  induction polls with
  | nil =>
    rw [turns, loop, ← unlessOver_eq]
    rfl
  | cons poll rest ih =>
    rw [turns, loop, ← unlessOver_eq, ih]
    simp only [bind_assoc]

theorem run_turn (poll : Poll) (p : Pump ω) :
    (turn poll).run p = (⟨poll, p⟩ : Iteration ω).ran := rfl

theorem loop_of_not_goesOn (polls : List Poll) {p : Pump ω} (h : p.goesOn = false) :
    (loop polls).run p = ⟨.ok (), p, []⟩ ∧ iterations polls p = [] := by
  cases polls <;> simp [loop, run_whileOn, iterations, h]

theorem run_loop_nil {p : Pump ω} (h : p.goesOn = true) :
    (loop []).run p = (⟨.interrupting, p⟩ : Iteration ω).ran := by
  rw [loop, run_whileOn, if_pos h]
  rfl

theorem run_loop_cons (poll : Poll) (rest : List Poll) {p : Pump ω} (h : p.goesOn = true) :
    let i : Iteration ω := ⟨poll, { p with polls := rest }⟩
    (loop (poll :: rest)).run p =
      match i.ran.outcome with
      | .ok () =>
        ⟨((loop rest).run i.ran.state).outcome, ((loop rest).run i.ran.state).state,
          i.ran.events ++ ((loop rest).run i.ran.state).events⟩
      | .error f => ⟨.error f, i.ran.state, i.ran.events⟩ := by
  rw [loop, run_whileOn, if_pos h]
  simp only [Act.run_bind_eq, Act.run_modify, run_turn, List.nil_append]
  cases (Iteration.ran ⟨poll, { p with polls := rest }⟩).outcome <;> rfl

theorem events_loop (polls : List Poll) (p : Pump ω) :
    ((loop polls).run p).events = (iterations polls p).flatMap fun i => i.ran.events := by
  -- The loop and the list of iterations stop at the same places: not to go on, and a failure.
  induction polls generalizing p with
  | nil =>
    cases hgoes : p.goesOn with
    | false =>
      obtain ⟨hrun, hnone⟩ := loop_of_not_goesOn [] hgoes
      rw [hrun, hnone]
      rfl
    | true =>
      rw [run_loop_nil hgoes, iterations, if_pos hgoes]
      simp
  | cons poll rest ih =>
    cases hgoes : p.goesOn with
    | false =>
      obtain ⟨hrun, hnone⟩ := loop_of_not_goesOn (poll :: rest) hgoes
      rw [hrun, hnone]
      rfl
    | true =>
      rw [run_loop_cons poll rest hgoes, iterations, if_pos hgoes, List.flatMap_cons]
      cases (Iteration.ran ⟨poll, { p with polls := rest }⟩).outcome with
      | error f => simp
      | ok => rw [ih]

/-- The trace of a run is made of those of its iterations and of its end. -/
theorem events_run (p : Pump ω) :
    ∃ ending, ((run : Act Event (Pump ω) Unit).run p).events =
        ((iterations p.polls p).flatMap fun i => i.ran.events) ++ ending ∧
      (ending = [] ∨ ∃ q : Pump ω, ending = (finish.run q).events) := by
  have hrun : (run : Act Event (Pump ω) Unit).run p = (turns p.polls).run p := rfl
  rw [hrun, turns_eq, Act.run_bind_eq, ← events_loop]
  cases ((loop p.polls).run p).outcome with
  | error f => exact ⟨[], by simp, .inl rfl⟩
  | ok => exact ⟨_, rfl, .inr ⟨_, rfl⟩⟩

end Pump

end Telnet
