import Telnet.Proofs.Client.Resolving
import Telnet.Proofs.Session.Socket

/-!
# How a call ends

A call goes through stages: its target is read and resolved, a pump is set up, a connection is
opened and connected, and the session runs. The first stage that fails decides how the call ends
(`Call.outcome_error_iff`). Whatever it is, the connection that was opened is closed
(`Pump.not_open_conduct`). All this holds over any two sides whose connections can be closed
(`Sides.Connections`), and so over a console and a network (`Surroundings.connections`).
-/

namespace Telnet

/-- A connection is there once it is opened, it stays open while it is used, and it can be closed.
-/
structure Sides.Connections {ω : Type} [Sides ω] (isOpen : ω → Prop) : Prop where
  opens : ∀ family s, ((Sides.openFor family).run s).outcome = .ok () →
    isOpen ((Sides.openFor family).run s).state
  refused : ∀ family s f, ¬isOpen s → ((Sides.openFor family).run s).outcome = .error f →
    ¬isOpen ((Sides.openFor family).run s).state
  connect : ∀ address port, (Sides.connect address port).Leads isOpen (fun _ => True) isOpen
  session : Sides.Keeps isOpen fun _ => True
  close : ∀ s, isOpen s →
    (Sides.close.run s).outcome = .ok () ∧ ¬isOpen (Sides.close.run s).state
  interrupt : (Sides.interrupt : Act Effect ω Unit).Leads (fun s => ¬isOpen s) (fun _ => True)
    fun s => ¬isOpen s

namespace Pump

variable {ω : Type} [Sides ω] {p : Pump ω} {isOpen : ω → Prop}

def course (p : Pump ω) : Except Failure Unit :=
  match p.opened.outcome with
  | .error f => .error f
  | .ok () => match p.attempted.outcome with
    | .error f => .error (reported p.limit p.session.address p.session.port f)
    | .ok () => (run.run (connect.run p).state).outcome

theorem connect_ok_iff :
    (connect.run p).outcome = .ok () ↔ p.opened.outcome = .ok () ∧ p.attempted.outcome = .ok () :=
  ⟨of_connect, fun h => (run_connect_ok p h.1 h.2).1⟩

theorem course_ok_iff :
    p.course = .ok () ↔ (connect.run p).outcome = .ok () ∧
      (run.run (connect.run p).state).outcome = .ok () := by
  rw [connect_ok_iff]
  unfold course
  cases p.opened.outcome with
  | error f => simp
  | ok => cases p.attempted.outcome <;> simp

theorem course_error_iff {f : Failure} :
    p.course = .error f ↔ p.opened.outcome = .error f ∨
      (p.opened.outcome = .ok () ∧ ∃ g, p.attempted.outcome = .error g ∧
        reported p.limit p.session.address p.session.port g = f) ∨
      ((connect.run p).outcome = .ok () ∧
        (run.run (connect.run p).state).outcome = .error f) := by
  rw [connect_ok_iff]
  unfold course
  cases p.opened.outcome with
  | error g => simp
  | ok => cases p.attempted.outcome <;> simp

/-! ### The connection -/

theorem open_attempted (h : Sides.Connections isOpen) (hopened : p.opened.outcome = .ok ()) :
    isOpen p.attempted.state.sides := by
  have hopen : isOpen p.opened.state := h.opens _ _ hopened
  have hconnect : (tryConnect p.limit p.session.address p.session.port).Leads (SidesHold isOpen)
      (Event.Only fun _ => True) (SidesHold isOpen) := by
    unfold tryConnect
    exact .andThen .ofExcept fun _ => leads_ask_sides (h.connect _ _) _
  exact (hconnect { p with
    session := { p.session with hasHandle := true }, sides := p.opened.state } hopen).1

theorem open_ended (h : Sides.Connections isOpen) (hopened : p.opened.outcome = .ok ())
    (hc : p.attempted.outcome = .ok ()) : isOpen p.ended.sides := by
  have hconnected : SidesHold isOpen (connect.run p).state := by
    rw [(run_connect_ok p hopened hc).2.1]
    exact open_attempted h hopened
  exact ((invariant_of_sides h.session).leads_run _ hconnected).1

theorem run_connect_reported (h : Sides.Connections isOpen) (hopened : p.opened.outcome = .ok ())
    {f : Failure} (hc : p.attempted.outcome = .error f) :
    (connect.run p).outcome =
      .error (reported p.limit p.session.address p.session.port f) :=
  (run_connect_error p hopened hc (h.close _ (open_attempted h hopened)).1).1

theorem outcome_conduct (h : Sides.Connections isOpen) (p : Pump ω) :
    (conduct.run (.outside, p)).outcome = p.course := by
  unfold course
  cases hopened : p.opened.outcome with
  | error f => rw [run_conduct_refused p (run_connect_refused p hopened).1]
  | ok =>
    cases hc : p.attempted.outcome with
    | error f => rw [run_conduct_refused p (run_connect_reported h hopened hc)]
    | ok =>
      obtain ⟨hok, -, -⟩ := run_connect_ok p hopened hc
      exact outcome_conduct_entered p hok (h.close _ (open_ended h hopened hc)).1

theorem not_open_release (h : Sides.Connections isOpen) (hhandle : p.session.hasHandle = true)
    (hopen : isOpen p.sides) : ¬isOpen (release.run p).state.sides := by
  obtain ⟨hclose, hclosed⟩ := h.close _ hopen
  have hsides : (release.run p).state.sides = (Sides.close.run p.sides).state := by
    rcases p with ⟨logger, limit, ⟨address, port, engine, state, history, hasHandle⟩, polls, sides⟩
    cases hhandle
    cases state <;> simp [release, Act.run_bind_eq, Session.become, hclose]
  rw [hsides]
  exact hclosed

/-- Whatever happens between entering and leaving, no connection is left open. -/
theorem not_open_conduct (h : Sides.Connections isOpen) (hclosed : ¬isOpen p.sides) :
    ¬isOpen (conduct.run (.outside, p)).state.2.sides := by
  cases hopened : p.opened.outcome with
  | error f =>
    rw [run_conduct_refused p (run_connect_refused p hopened).1]
    show ¬isOpen (connect.run p).state.sides
    have hconnect : (connect.run p).state.sides = p.opened.state := by
      have hrefused : ((Sides.openFor p.session.address.family).run p.sides).outcome = .error f :=
        hopened
      simp [connect, Act.run_bind_eq, hrefused, opened]
    rw [hconnect]
    exact h.refused _ _ f hclosed hopened
  | ok =>
    cases hc : p.attempted.outcome with
    | error f =>
      have hhandle : p.attempted.state.session.hasHandle = true := by rw [p.attempted_eq.1]
      rw [run_conduct_refused p (run_connect_reported h hopened hc)]
      show ¬isOpen (connect.run p).state.sides
      rw [run_connect_unconnected p hopened hc]
      exact not_open_release h hhandle (open_attempted h hopened)
    | ok =>
      have hok := (run_connect_ok p hopened hc).1
      have hopen := open_ended h hopened hc
      rw [(run_conduct_entered p hok (h.close _ hopen).1).1]
      exact not_open_release h (hasHandle_ended p hopened hc) hopen

/-- A pump that goes through all stages leaves its session closed and without a connection. -/
theorem session_conduct (h : Sides.Connections isOpen) (hcourse : p.course = .ok ()) :
    let session := (conduct.run (.outside, p)).state.2.session
    session.state = .closed ∧ session.hasHandle = false ∧
      session.history = p.session.history ++ [.active, .closing, .closed] := by
  obtain ⟨hconnect, -⟩ := course_ok_iff.1 hcourse
  obtain ⟨hopened, hc⟩ := connect_ok_iff.1 hconnect
  obtain ⟨-, hhandle, hstate, hhistory⟩ :=
    conduct_entered p hopened hc (h.close _ (open_ended h hopened hc)).1
  exact ⟨hstate, hhandle, hhistory⟩

end Pump

namespace Surroundings

theorem leads_of_alike {α : Type} {x : Act Effect Surroundings α} {P : Network → Prop}
    (h : ∀ c, x.Leads (Alike c P) (Effect.OfSession c.kind) (Alike c P)) :
    x.Leads (fun s => P s.network) (fun _ => True) fun s => P s.network := by
  intro s hs
  obtain ⟨⟨-, hnetwork⟩, -⟩ := h s.console s ⟨.refl _, hs⟩
  exact ⟨hnetwork, fun _ _ => trivial⟩

theorem keeps_open : Sides.Keeps (fun s : Surroundings => s.network.Open) fun _ => True := by
  have h := fun c => keeps_alike (c := c) Network.coarse_open
  exact {
    waited := trivial
    logged := fun _ => trivial
    interrupt := leads_of_alike fun c => (h c).interrupt
    readLine := leads_of_alike fun c => (h c).readLine
    setEcho := fun enabled => leads_of_alike fun c => (h c).setEcho enabled
    display := fun bytes => leads_of_alike fun c => (h c).display bytes
    read := fun limit => leads_of_alike fun c => (h c).read limit
    write := fun bytes => leads_of_alike fun c => (h c).write bytes
    status := leads_of_alike fun c => (h c).status
    sleep := fun seconds => leads_of_alike fun c => (h c).sleep seconds }

theorem connections : Sides.Connections fun s : Surroundings => s.network.Open where
  opens family s hok := by
    rw [run_openFor] at hok ⊢
    cases hopen : s.network.nextSocket.openFailure with
    | none => exact ⟨_, rfl, rfl⟩
    | some f =>
      rw [hopen] at hok
      cases hok
  refused family s f hclosed herror := by
    rw [run_openFor] at herror ⊢
    cases hopen : s.network.nextSocket.openFailure with
    | none =>
      rw [hopen] at herror
      cases herror
    | some g => exact hclosed
  connect address port := by
    have hlink := Network.leads_staysOpen (Link.staysOpen_connect address port) Network.coarse_open
    exact .on (hlink.allow fun _ _ => trivial) (fun _ hs => hs) fun _ _ _ ht => ht
  session := keeps_open
  close s hopen := by
    obtain ⟨link, hlink, hlinkOpen⟩ := hopen
    have hclose : Sides.close.run s = _ := run_onLink Link.close hlink
    rw [hclose, Link.run_close, if_pos hlinkOpen]
    refine ⟨rfl, ?_⟩
    rintro ⟨link', hsome, hopen'⟩
    cases hsome
    cases hopen'
  interrupt := .update fun _ hs => hs

end Surroundings

/-! ### Stages -/

namespace Call

variable {ω : Type} {call : Call} {s : ω} {f : Failure}

/-- The call comes to hold a session with the pump over the surroundings. -/
inductive Holds (call : Call) (s : ω) : Pump ω → Prop where
  | intro {destination : Endpoint × Address} {term : TerminalType}
      (hgoal : call.goal = .ok destination) (hterm : call.term = .ok term) :
      Holds call s (.start Log.clientLogger call.limit term destination.2 destination.1.port
        call.polls s)

/-- There is no destination if the target cannot be read or no address is found. -/
theorem goal_error_iff :
    call.goal = .error f ↔ Endpoint.ofText call.target = .error f ∨
      ∃ endpoint, Endpoint.ofText call.target = .ok endpoint ∧
        Resolution.found call.resolver endpoint.host = .error f := by
  unfold goal
  cases Endpoint.ofText call.target with
  | error g => simp
  | ok endpoint =>
    cases hfound : Resolution.found call.resolver endpoint.host <;> simp [Except.map, hfound]

/-- The call fails before there is a session: there is nothing to connect to, or no terminal type. -/
inductive Refuses (call : Call) (f : Failure) : Prop where
  | goal (h : call.goal = .error f)
  | term {destination : Endpoint × Address} (hgoal : call.goal = .ok destination)
      (hterm : call.term = .error f)

theorem stages (call : Call) (s : ω) : (∃ f, call.Refuses f) ∨ ∃ p, call.Holds s p := by
  cases hgoal : call.goal with
  | error f => exact .inl ⟨f, .goal hgoal⟩
  | ok destination =>
    cases hterm : call.term with
    | error f => exact .inl ⟨f, .term hgoal hterm⟩
    | ok term => exact .inr ⟨_, .intro hgoal hterm⟩

variable [Sides ω] {isOpen : ω → Prop}

theorem outcome_conduct (h : Sides.Connections isOpen) (pump : ω → Pump ω) (s : ω) :
    ((conduct pump).run s).outcome = match (pump s).course with
      | .ok () => .ok (Pump.conduct.run (.outside, pump s)).state.2.session
      | .error f => .error (leaveGroup f) := by
  rw [← Pump.outcome_conduct h]
  rfl

/-! ### Stages in a block -/

theorem runIn_of_refuses (lib : TaskLibrary ω) (h : call.Refuses f) (s : ω) :
    let r := (call.runIn lib).run ([], s)
    r.outcome = .error f ∧ r.state = ([], s) := by
  have houtcome := call.outcome_destination s
  have hstate := call.state_destination s
  rw [runIn_eq, Act.run_bind_eq]
  cases h with
  | goal hgoal => simp [onSides, houtcome, hstate, hgoal]
  | term hgoal hterm =>
    simp [onSides, visitIn, Act.run_bind_eq, houtcome, hstate, hgoal, hterm]

theorem runIn_of_holds (lib : TaskLibrary ω) {p : Pump ω} (h : call.Holds s p) :
    let r := (call.runIn lib).run ([], s)
    let held := (Holding.hold lib call.routesInterrupts).run (.start p)
    r.outcome = held.outcome ∧ r.state = (held.state.endings, held.state.pump.sides) := by
  obtain ⟨hgoal, hterm⟩ := h
  rename_i destination term
  have houtcome := call.outcome_destination s
  have hstate := call.state_destination s
  rw [runIn_eq, Act.run_bind_eq]
  simp only [onSides, visitIn, Act.run_bind_eq, Act.run_on, run_announce, Act.run_ofExcept,
    houtcome, hstate, hgoal, hterm]
  exact ⟨rfl, rfl⟩

/-! ### Stages of a call -/

theorem run_of_refuses (h : call.Refuses f) (s : ω) :
    (call.run.run s).outcome = .error f ∧ (call.run.run s).state = s := by
  obtain ⟨houtcome, hstate⟩ := runIn_of_refuses .prompt h s
  exact ⟨houtcome, congrArg Prod.snd hstate⟩

theorem run_of_holds (h : Sides.Connections isOpen) {p : Pump ω} (hp : call.Holds s p) :
    let r := Pump.conduct.run (.outside, p)
    p.sides = s ∧ p.session.history = [.connecting] ∧
      (call.run.run s).outcome = (match p.course with
        | .ok () => .ok r.state.2.session
        | .error f => .error (leaveGroup f)) ∧
      (call.run.run s).state = r.state.2.sides := by
  obtain ⟨houtcome, hstate⟩ := runIn_of_holds .prompt hp
  obtain ⟨hheld, hsides, -⟩ := run_holdOver_prompt call.routesInterrupts (fun _ => p) [] s
  obtain ⟨hgoal, hterm⟩ := hp
  exact ⟨rfl, rfl, houtcome.trans (hheld.trans (outcome_conduct h _ s)),
    (congrArg Prod.snd hstate).trans hsides⟩

/-- A call fails as the first of its stages that fails. -/
theorem outcome_error_iff (h : Sides.Connections isOpen) :
    (call.run.run s).outcome = .error f ↔
      call.Refuses f ∨ ∃ p g, call.Holds s p ∧ p.course = .error g ∧ f = leaveGroup g := by
  constructor
  · intro herror
    rcases call.stages s with ⟨g, hrefuses⟩ | ⟨p, hp⟩
    · rw [(run_of_refuses hrefuses s).1] at herror
      exact .inl (Except.error.inj herror ▸ hrefuses)
    · obtain ⟨-, -, houtcome, -⟩ := run_of_holds h hp
      rw [houtcome] at herror
      cases hcourse : p.course with
      | ok =>
        rw [hcourse] at herror
        cases herror
      | error g =>
        rw [hcourse] at herror
        exact .inr ⟨p, g, hp, hcourse, (Except.error.inj herror).symm⟩
  · rintro (hrefuses | ⟨p, g, hp, hcourse, rfl⟩)
    · exact (run_of_refuses hrefuses s).1
    · obtain ⟨-, -, houtcome, -⟩ := run_of_holds h hp
      rw [houtcome, hcourse]

theorem outcome_ok_iff (h : Sides.Connections isOpen) :
    (∃ session, (call.run.run s).outcome = .ok session) ↔
      ∃ p, call.Holds s p ∧ p.course = .ok () := by
  constructor
  · rintro ⟨session, hok⟩
    rcases call.stages s with ⟨g, hrefuses⟩ | ⟨p, hp⟩
    · rw [(run_of_refuses hrefuses s).1] at hok
      cases hok
    · obtain ⟨-, -, houtcome, -⟩ := run_of_holds h hp
      rw [houtcome] at hok
      cases hcourse : p.course with
      | ok => exact ⟨p, hp, hcourse⟩
      | error g =>
        rw [hcourse] at hok
        cases hok
  · rintro ⟨p, hp, hcourse⟩
    obtain ⟨-, -, houtcome, -⟩ := run_of_holds h hp
    rw [houtcome, hcourse]
    exact ⟨_, rfl⟩

end Call

end Telnet
