import Telnet.Proofs.Session.Request

/-!
# A turn in parts

A turn waits for one of the sides and then makes a transfer (`turn_eq`). To receive a chunk is to
let the engine read it, which may fail as the local echo is switched, and then to show and to send
what came of it (`receive_eq`).
-/

namespace Telnet.Pump

variable {ω : Type} [Sides ω]

def wait (poll : Poll) : Act Event (Pump ω) (Option Side) := do
  .emit (.effect (.poll pollInterval))
  if poll.interrupts then ask .interrupt Sides.interrupt
  .ofExcept poll.ready

theorem state_wait (poll : Poll) (p : Pump ω) :
    ((wait poll).run p).state =
      { p with
        sides := if poll.interrupts then (Sides.interrupt.run p.sides).state else p.sides } := by
  cases h : poll.interrupts with
  | false => simp [wait, Act.run_bind_eq, h]
  | true =>
    cases hinterrupt : ((Sides.interrupt : Act Effect ω Unit).run p.sides).outcome <;>
      simp [wait, Act.run_bind_eq, h, hinterrupt]

def transfer : Option Side → Act Event (Pump ω) Unit
  | some .console => transferLine
  | some .remote => transferChunk
  | none => do
    onSides (Sides.sleep idleInterval)
    checkAlive

theorem turn_eq (poll : Poll) : (turn poll : Act Event (Pump ω) Unit) = wait poll >>= transfer := by
  simp only [turn, wait, bind_assoc]
  congr 1
  funext u
  by_cases h : poll.interrupts = true
  · simp only [if_pos h, bind_assoc]
    rfl
  · simp only [if_neg h]
    rfl

def feed (chunk : Bytes) : Act Event (Pump ω) Fed := do
  let fed := (← get).session.engine.feed chunk
  modify fun p => { p with session := { p.session with engine := fed.engine } }
  fed.notes.forM perform
  return fed

theorem run_feed (chunk : Bytes) (p : Pump ω) :
    (feed chunk).run p =
      let fed := p.session.engine.feed chunk
      let r := (fed.notes.forM perform).run
        { p with session := { p.session with engine := fed.engine } }
      ⟨r.outcome.map fun _ => fed, r.state, r.events⟩ := by
  simp only [feed, Act.run_bind_eq, Act.run_get, Act.run_modify, List.nil_append]
  cases ((p.session.engine.feed chunk).notes.forM perform |>.run
    { p with session := { p.session with
      engine := (p.session.engine.feed chunk).engine } }).outcome with
  | error f => rfl
  | ok => simp [Except.map]

theorem eq_of_outcome_feed {chunk : Bytes} {p : Pump ω} {fed : Fed}
    (h : ((feed chunk).run p).outcome = .ok fed) : fed = p.session.engine.feed chunk := by
  rw [run_feed] at h
  simp only [Except.map] at h
  split at h
  · cases h
  · exact (Except.ok.inj h).symm

def deliver (fed : Fed) : Act Event (Pump ω) Unit := do
  display fed.display
  if !fed.response.isEmpty then write fed.response

theorem receive_eq (chunk : Bytes) :
    (receive chunk : Act Event (Pump ω) Unit) = feed chunk >>= deliver := by
  simp only [receive, feed, deliver, bind_assoc, pure_bind]

theorem run_transferChunk (p : Pump ω) :
    transferChunk.run p =
      let limit := Sides.chunk p.sides
      let r := (Sides.read limit).run p.sides
      let q : Pump ω := { p with sides := r.state }
      let t : Ran Event (Pump ω) Unit := match r.outcome with
        | .ok none => ⟨.ok (), q, []⟩
        | .ok (some chunk) => if chunk.isEmpty then checkAlive.run q else (receive chunk).run q
        | .error f => ⟨.error f, q, []⟩
      ⟨t.outcome, t.state, .asked (.read limit) :: (r.events.map .effect ++ t.events)⟩ := by
  simp only [transferChunk, Act.run_bind_eq, Act.run_get, run_ask, List.nil_append]
  cases ((Sides.read (Sides.chunk p.sides)).run p.sides).outcome with
  | error f => simp
  | ok chunk =>
    cases chunk with
    | none => simp
    | some chunk => cases chunk <;> simp

theorem run_unlessOver (next : Act Event (Pump ω) Unit) (p : Pump ω) :
    (unlessOver next).run p =
      if p.session.isConnected then
        if Sides.isCancelled p.sides then cancel.run p else next.run p
      else ⟨.ok (), p, []⟩ := by
  rw [unlessOver, Act.run_bind, Act.run_get]
  simp only [List.nil_append]
  split
  · split <;> rfl
  · rfl

/-! ### What the parts ask for -/

/-- An effect, or a request to switch the local echo. -/
def EchoOnly (e : Event) : Prop :=
  match e with
  | .effect _ | .asked (.echo _) => True
  | _ => False

variable {P Q : Pump ω → Prop} {E : Event → Prop}

theorem leads_perform (hlog : ∀ r, E (.effect (.logged r)))
    (hecho : ∀ enabled, (ask (.echo enabled) (Sides.setEcho enabled)).Leads P E P)
    (n : Note) : (perform n).Leads P E P := by
  cases n with
  | echo enabled => exact hecho enabled
  | ignored | received | told => exact leads_note _ _ hlog fun _ hp => hp

theorem leads_feed (hlog : ∀ r, E (.effect (.logged r)))
    (hecho : ∀ enabled, (ask (.echo enabled) (Sides.setEcho enabled)).Leads Q E Q)
    (chunk : Bytes)
    (hengine : ∀ p, P p → Q { p with session := { p.session with
      engine := (p.session.engine.feed chunk).engine } }) :
    (feed chunk).Leads P E Q := by
  rw [feed]
  refine .bind_get fun t ht => ?_
  refine .bind (.update (Q := Q) ?_) (fun _ => ?_) fun _ hs => hs
  · rintro _ rfl
    exact hengine _ ht
  · refine .andThen (.forM _ (leads_perform hlog hecho)) fun _ => ?_
    exact .pure _

theorem leads_feed_of_sides (hsides : ∀ p s, P p → P { p with sides := s })
    (hengine : ∀ p e, P p → P { p with session := { p.session with engine := e } })
    (chunk : Bytes) : (feed chunk).Leads P EchoOnly P :=
  leads_feed (fun _ => trivial) (fun _ => leads_ask _ _ trivial (fun _ => trivial) hsides) chunk
    fun p hp => hengine p _ hp

theorem requests_of_echoOnly {events : List Event} (h : ∀ e ∈ events, EchoOnly e) {r : Request}
    (hr : r ∈ requests events) : ∃ enabled, r = .echo enabled := by
  obtain ⟨e, he, heq⟩ := List.mem_filterMap.1 hr
  have hecho := h e he
  cases e with
  | effect e => cases heq
  | asked r' =>
    cases heq
    cases r with
    | echo enabled => exact ⟨enabled, rfl⟩
    | _ => cases hecho

theorem writes_feed (chunk : Bytes) (p : Pump ω) : writes ((feed chunk).run p).events = [] := by
  obtain ⟨-, hecho⟩ := leads_feed_of_sides (P := fun _ => True) (fun _ _ _ => trivial)
    (fun _ _ _ => trivial) chunk p trivial
  refine List.filterMap_eq_nil_iff.2 fun r hr => ?_
  obtain ⟨enabled, rfl⟩ := requests_of_echoOnly hecho hr
  rfl

theorem requests_wait (poll : Poll) (p : Pump ω) :
    requests ((wait poll).run p).events = if poll.interrupts then [.interrupt] else [] := by
  cases h : poll.interrupts with
  | false => simp [wait, Act.run_bind_eq, h]
  | true =>
    cases hinterrupt : ((Sides.interrupt : Act Effect ω Unit).run p.sides).outcome <;>
      simp [wait, Act.run_bind_eq, h, hinterrupt]

theorem requests_transferLine (p : Pump ω) :
    requests (transferLine.run p).events =
      .readLine :: match ((Sides.readLine : Act Effect ω Bytes).run p.sides).outcome with
        | .ok line => if line.isEmpty then [] else [.write line.networkEnds]
        | .error _ => [] := by
  cases h : ((Sides.readLine : Act Effect ω Bytes).run p.sides).outcome with
  | error f => simp [transferLine, Act.run_bind_eq, h]
  | ok line => cases line <;> simp [transferLine, write, Act.run_bind_eq, h]

theorem requests_checkAlive (p : Pump ω) :
    requests (checkAlive.run p).events =
      .status :: match ((Sides.status : Act Effect ω (Option Status)).run p.sides).outcome with
        | .ok (some s) => if s.isClosed then [.display closedByHost] else []
        | _ => [] := by
  cases h : ((Sides.status : Act Effect ω (Option Status)).run p.sides).outcome with
  | error f => simp [checkAlive, Act.run_bind_eq, h]
  | ok status =>
    cases status with
    | none => simp [checkAlive, Act.run_bind_eq, h]
    | some s =>
      cases hs : s.isClosed with
      | false => simp [checkAlive, Act.run_bind_eq, h, hs]
      | true =>
        cases hd : ((Sides.display closedByHost).run
            ((Sides.status : Act Effect ω (Option Status)).run p.sides).state).outcome <;>
          simp [checkAlive, display, Act.run_bind_eq, h, hs, hd]

theorem requests_deliver (fed : Fed) (p : Pump ω)
    (h : ((Sides.display fed.display).run p.sides).outcome = .ok ()) :
    requests ((deliver fed).run p).events =
      .display fed.display :: if fed.response.isEmpty then [] else [.write fed.response] := by
  cases hr : fed.response.isEmpty <;>
    simp [deliver, display, write, Act.run_bind_eq, h, hr]

end Telnet.Pump
