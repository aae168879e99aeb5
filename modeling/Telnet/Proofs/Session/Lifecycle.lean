import Telnet.Proofs.Scope
import Telnet.Proofs.Session.Invariant
import Telnet.Session.Scripted

/-!
# The life of a session

A session that was connected is closed in the end, and one that was not is closed at once. On both
ways the connection is closed exactly once and after everything else that is asked of it, whatever
fails in between.

While a pump runs its session is `Live` or `Over`, and it makes no request but those of `Traffic`
(`leads_run`).
-/

namespace Telnet

/-- An event that is no request to open, to connect or to close. -/
def Traffic (e : Event) : Prop :=
  match e with
  | .asked (.openFor _) | .asked (.connect _ _) | .asked .close => False
  | _ => True

namespace Pump

variable {ω : Type}

/-! ### Running -/

/-- Data may flow, and the session went through some states before. -/
def Live (before : List SessionState) (p : Pump ω) : Prop :=
  p.session.state = .active ∧ p.session.history = before ∧ p.session.hasHandle = true

def Over (before : List SessionState) (p : Pump ω) : Prop :=
  p.session.state = .closing ∧ p.session.history = before ++ [.closing] ∧
    p.session.hasHandle = true

def Held (before : List SessionState) (p : Pump ω) : Prop := Live before p ∨ Over before p

variable {before : List SessionState}

theorem leads_closing : (become .closing).Leads (Live (ω := ω) before) Traffic (Held before) := by
  refine leads_become .closing (fun _ => trivial) ?_
  rintro p ⟨-, hhistory, hhandle⟩
  refine .inr ⟨rfl, ?_, hhandle⟩
  show p.session.history ++ [.closing] = before ++ [.closing]
  rw [hhistory]

theorem leads_ask_live {α : Type} {r : Request} (x : Act Effect ω α) (hr : Traffic (.asked r)) :
    (ask r x).Leads (Live before) Traffic (Live before) :=
  leads_ask r x hr (fun _ => trivial) fun _ _ hp => hp

variable [Sides ω]

theorem invariant_live : Invariant (Live (ω := ω) before) (Held before) Traffic where
  held _ hp := .inl hp
  live p hp hconnected := by
    rcases hp with hp | hp
    · exact hp
    · simp [Session.isConnected, hp.1] at hconnected
  polls _ _ hp := hp
  engine _ _ hp := hp
  waited := trivial
  logged _ := trivial
  interrupt := leads_ask_live _ trivial
  readLine := leads_ask_live _ trivial
  setEcho _ := leads_ask_live _ trivial
  display _ := leads_ask_live _ trivial
  read _ := leads_ask_live _ trivial
  write _ := leads_ask_live _ trivial
  status := leads_ask_live _ trivial
  sleep := leads_onSides _ (fun _ => trivial) fun _ _ hp => hp
  closing := leads_closing

theorem leads_run : run.Leads (Live (ω := ω) before) Traffic (Held before) :=
  invariant_live.leads_run

/-! ### Releasing -/

def released (s : Session) : Session :=
  { s with
    state := .closed
    history := s.history ++ (if s.state = .active then [.closing] else []) ++
      (if s.state = .closed then [] else [.closed])
    hasHandle := false }

theorem run_release (p : Pump ω) (hclose : (Sides.close.run p.sides).outcome = .ok ()) :
    (release.run p).outcome = .ok () ∧
      (release.run p).state.session = released p.session ∧
      requests (release.run p).events = if p.session.hasHandle then [.close] else [] := by
  rcases p with ⟨logger, limit, ⟨address, port, engine, state, history, hasHandle⟩, polls, sides⟩
  cases state <;> cases hasHandle <;>
    simp [release, Act.run_bind_eq, released, Session.become, hclose]

/-- A connection is closed once when it is released, and it is dropped even if closing it fails. -/
theorem release_held {p : Pump ω} (hhandle : p.session.hasHandle = true) :
    let r := release.run p
    r.state.session.hasHandle = false ∧ requests r.events = [.close] ∧
      ∀ g, (Sides.close.run p.sides).outcome = .error g → r.outcome = .error g := by
  rcases p with ⟨logger, limit, ⟨address, port, engine, state, history, hasHandle⟩, polls, sides⟩
  obtain rfl : hasHandle = true := hhandle
  cases hclose : (Sides.close.run sides).outcome <;> cases state <;>
    simp [release, Act.run_bind_eq, Session.become, hclose]

/-! ### Entering -/

def opened (p : Pump ω) : Ran Effect ω Unit :=
  (Sides.openFor p.session.address.family).run p.sides

def tryConnect (limit : Limit) (address : Address) (port : Int) : Act Event (Pump ω) Unit := do
  .ofExcept limit.check
  ask (.connect address port) (Sides.connect address port)

/-- How the attempt to connect goes, once the connection is opened. -/
def attempted (p : Pump ω) : Ran Event (Pump ω) Unit :=
  (tryConnect p.limit p.session.address p.session.port).run
    { p with session := { p.session with hasHandle := true }, sides := p.opened.state }

theorem attempted_eq (p : Pump ω) :
    p.attempted.state.session = { p.session with hasHandle := true } ∧
      (requests p.attempted.events = [] ∨
        requests p.attempted.events = [.connect p.session.address p.session.port]) := by
  rw [attempted, tryConnect, Act.run_bind_eq]
  cases hlimit : p.limit.check with
  | error f => exact ⟨rfl, .inl rfl⟩
  | ok => exact ⟨rfl, .inr (by simp)⟩

theorem polls_attempted (p : Pump ω) : p.attempted.state.polls = p.polls := by
  rw [attempted, tryConnect, Act.run_bind_eq]
  cases p.limit.check <;> rfl

theorem of_attempted {p : Pump ω} (h : p.attempted.outcome = .ok ()) :
    ((Sides.connect p.session.address p.session.port).run p.opened.state).outcome = .ok () ∧
      p.attempted.state.sides =
        ((Sides.connect p.session.address p.session.port).run p.opened.state).state := by
  rw [attempted, tryConnect, Act.run_bind_eq] at h ⊢
  cases hlimit : p.limit.check with
  | error f =>
    rw [hlimit] at h
    cases h
  | ok =>
    rw [hlimit] at h
    exact ⟨h, rfl⟩

theorem run_connect_refused (p : Pump ω) {f : Failure} (h : p.opened.outcome = .error f) :
    (connect.run p).outcome = .error f ∧ (connect.run p).state.session = p.session ∧
      requests (connect.run p).events = [.openFor p.session.address.family] := by
  have hopen : ((Sides.openFor p.session.address.family).run p.sides).outcome = .error f := h
  simp [connect, Act.run_bind_eq, hopen]

theorem events_connect_refused (p : Pump ω) {f : Failure} (h : p.opened.outcome = .error f) :
    (connect.run p).events =
      .asked (.openFor p.session.address.family) :: p.opened.events.map .effect := by
  have hopen : ((Sides.openFor p.session.address.family).run p.sides).outcome = .error f := h
  simp [connect, Act.run_bind_eq, hopen, opened]

def settle (limit : Limit) (address : Address) (port : Int) :
    Except Failure Unit → Act Event (Pump ω) Unit
  | .ok () => do
    note .connected [.words "Connected to ", .plain address.datum, .words ":", .number port]
    become .active
  | .error f => do
    release
    throw (reported limit address port f)

theorem run_connect_opened (p : Pump ω) (h : p.opened.outcome = .ok ()) :
    let settled := (settle p.limit p.session.address p.session.port p.attempted.outcome).run
      p.attempted.state
    connect.run p = ⟨settled.outcome, settled.state,
      .asked (.openFor p.session.address.family) :: (p.opened.events.map .effect ++
        (p.attempted.events ++ settled.events))⟩ := by
  have hopen : ((Sides.openFor p.session.address.family).run p.sides).outcome = .ok () := h
  have hconnect : (connect : Act Event (Pump ω) Unit) = (do
      let p ← get
      ask (.openFor p.session.address.family) (Sides.openFor p.session.address.family)
      setHandle true
      let outcome ← (tryConnect p.limit p.session.address p.session.port).attempt
      settle p.limit p.session.address p.session.port outcome) := by
    unfold connect settle
    rfl
  rw [hconnect]
  simp only [Act.run_bind_eq, Act.run_get, run_ask, hopen, run_setHandle, Act.run_attempt,
    List.nil_append, List.cons_append]
  rfl

theorem run_connect_ok (p : Pump ω) (h : p.opened.outcome = .ok ())
    (hc : p.attempted.outcome = .ok ()) :
    (connect.run p).outcome = .ok () ∧
      (connect.run p).state = { p.attempted.state with
        session := Session.become { p.session with hasHandle := true } .active } ∧
      requests (connect.run p).events =
        .openFor p.session.address.family :: requests p.attempted.events := by
  obtain ⟨hsession, -⟩ := p.attempted_eq
  rw [run_connect_opened p h, hc]
  refine ⟨rfl, ?_, ?_⟩
  · rw [← hsession]
    rfl
  · simp [settle, Act.run_bind_eq]

/-- What could not be connected is released, and the failure is reported after that. -/
theorem run_connect_unconnected (p : Pump ω) {f : Failure} (h : p.opened.outcome = .ok ())
    (hc : p.attempted.outcome = .error f) :
    let released := release.run p.attempted.state
    connect.run p =
      ⟨(match released.outcome with
          | .ok () => .error (reported p.limit p.session.address p.session.port f)
          | .error g => .error g),
        released.state,
        .asked (.openFor p.session.address.family) :: (p.opened.events.map .effect ++
          (p.attempted.events ++ released.events))⟩ := by
  intro released
  rw [run_connect_opened p h, hc, settle, Act.run_bind_eq]
  cases (release.run p.attempted.state).outcome <;> simp [released]

theorem run_connect_error (p : Pump ω) {f : Failure} (h : p.opened.outcome = .ok ())
    (hc : p.attempted.outcome = .error f)
    (hclose : (Sides.close.run p.attempted.state.sides).outcome = .ok ()) :
    (connect.run p).outcome = .error (reported p.limit p.session.address p.session.port f) ∧
      (connect.run p).state.session = released { p.session with hasHandle := true } ∧
      requests (connect.run p).events =
        .openFor p.session.address.family :: (requests p.attempted.events ++ [Request.close]) := by
  obtain ⟨hsession, -⟩ := p.attempted_eq
  obtain ⟨hok, hreleased, hrequests⟩ := run_release p.attempted.state hclose
  rw [hsession] at hreleased hrequests
  rw [if_pos rfl] at hrequests
  rw [run_connect_unconnected p h hc, hok]
  exact ⟨rfl, hreleased, by simp [hrequests]⟩

theorem of_connect {p : Pump ω} (hok : (connect.run p).outcome = .ok ()) :
    p.opened.outcome = .ok () ∧ p.attempted.outcome = .ok () := by
  cases h : p.opened.outcome with
  | error f =>
    rw [(run_connect_refused p h).1] at hok
    cases hok
  | ok =>
    refine ⟨rfl, ?_⟩
    cases hc : p.attempted.outcome with
    | ok => rfl
    | error f =>
      rw [run_connect_opened p h, hc] at hok
      simp only [settle, Act.run_bind_eq, Act.run_throw] at hok
      split at hok <;> cases hok

/-! ### From entering to leaving -/

theorem run_enter (p : Pump ω) :
    scope.enter.run (.outside, p) = ⟨(connect.run p).outcome,
      (Scope.stageAfter (connect.run p).outcome, (connect.run p).state), (connect.run p).events⟩ :=
  Scope.run_enter_of_outside rfl

theorem run_leave_inside (failure : Option Failure) (p : Pump ω)
    (h : (release.run p).outcome = .ok ()) :
    (scope.leave failure).run (.inside, p) =
      ⟨.ok false, (.outside, (release.run p).state), (release.run p).events⟩ := by
  rw [Scope.run_leave]
  simp [Scope.releasing, Scope.closing, scope, h, Except.map]

theorem run_conduct_refused (p : Pump ω) {f : Failure} (h : (connect.run p).outcome = .error f) :
    conduct.run (.outside, p) =
      ⟨.error f, (.broken, (connect.run p).state), (connect.run p).events⟩ := by
  have hentered := run_enter p
  rw [h] at hentered
  exact Act.run_bind_error hentered

def ended (p : Pump ω) : Pump ω := (run.run (connect.run p).state).state

theorem live_connect (p : Pump ω) (h : p.opened.outcome = .ok ())
    (hc : p.attempted.outcome = .ok ()) :
    Live (p.session.history ++ [.active]) (connect.run p).state := by
  obtain ⟨-, hconnected, -⟩ := run_connect_ok p h hc
  rw [Live, hconnected]
  exact ⟨rfl, rfl, rfl⟩

theorem held_ended (p : Pump ω) (h : p.opened.outcome = .ok ())
    (hc : p.attempted.outcome = .ok ()) : Held (p.session.history ++ [.active]) p.ended :=
  (leads_run _ (live_connect p h hc)).1

theorem hasHandle_ended (p : Pump ω) (h : p.opened.outcome = .ok ())
    (hc : p.attempted.outcome = .ok ()) : p.ended.session.hasHandle = true := by
  rcases held_ended p h hc with ⟨-, -, hhandle⟩ | ⟨-, -, hhandle⟩ <;> exact hhandle

/-- A pump that was entered and can be closed is released behind its run, and ends as that does. -/
theorem run_conduct (p : Pump ω) (h : (connect.run p).outcome = .ok ())
    (hclose : (Sides.close.run p.ended.sides).outcome = .ok ()) :
    conduct.run (.outside, p) = ⟨(run.run (connect.run p).state).outcome,
      (.outside, (release.run p.ended).state), (connect.run p).events ++
        ((run.run (connect.run p).state).events ++ (release.run p.ended).events)⟩ := by
  obtain ⟨hok, -, -⟩ := run_release p.ended hclose
  have hentered := run_enter p
  rw [h] at hentered
  have hleft := fun failure => run_leave_inside failure p.ended hok
  rw [ended] at hleft ⊢
  rw [conduct, Act.run_bind_ok hentered]
  cases hrun : (run.run (connect.run p).state).outcome <;>
    simp [Scope.within, Scope.stageAfter, Act.discard_eq, Act.run_bind_eq, hrun, hleft, Except.map]

theorem run_conduct_entered (p : Pump ω) (h : (connect.run p).outcome = .ok ())
    (hclose : (Sides.close.run p.ended.sides).outcome = .ok ()) :
    (conduct.run (.outside, p)).state.2 = (release.run p.ended).state ∧
      (conduct.run (.outside, p)).events = (connect.run p).events ++
        ((run.run (connect.run p).state).events ++ (release.run p.ended).events) := by
  rw [run_conduct p h hclose]
  exact ⟨rfl, rfl⟩

theorem outcome_conduct_entered (p : Pump ω) (h : (connect.run p).outcome = .ok ())
    (hclose : (Sides.close.run p.ended.sides).outcome = .ok ()) :
    (conduct.run (.outside, p)).outcome = (run.run (connect.run p).state).outcome := by
  rw [run_conduct p h hclose]

def ofConnection (r : Request) : Bool :=
  match r with
  | .connect _ _ | .read _ | .write _ | .status | .close => true
  | _ => false

def calls (events : List Event) : List Request := (requests events).filter ofConnection

theorem not_mem_calls_of_traffic {events : List Event} (h : ∀ e ∈ events, Traffic e) :
    Request.close ∉ calls events := by
  intro hmem
  have hrequest := (List.mem_filter.1 hmem).1
  obtain ⟨e, he, heq⟩ := List.mem_filterMap.1 hrequest
  cases e with
  | effect e => cases heq
  | asked r =>
    cases heq
    exact h _ he

@[simp] theorem calls_append (a b : List Event) : calls (a ++ b) = calls a ++ calls b := by
  simp only [calls, requests_append, List.filter_append]

theorem close_not_mem_attempted (p : Pump ω) : Request.close ∉ calls p.attempted.events := by
  rcases p.attempted_eq.2 with hnone | hone
  · simp [calls, hnone]
  · simp [calls, hone, ofConnection]

theorem calls_connect_ok (p : Pump ω) (h : p.opened.outcome = .ok ())
    (hc : p.attempted.outcome = .ok ()) :
    calls (connect.run p).events = calls p.attempted.events := by
  obtain ⟨-, -, hrequests⟩ := run_connect_ok p h hc
  rw [calls, hrequests]
  rfl

theorem calls_connect_error (p : Pump ω) {f : Failure} (h : p.opened.outcome = .ok ())
    (hc : p.attempted.outcome = .error f) :
    calls (connect.run p).events = calls p.attempted.events ++ [Request.close] := by
  have hhandle : p.attempted.state.session.hasHandle = true := by rw [p.attempted_eq.1]
  obtain ⟨-, hrequests, -⟩ := release_held hhandle
  rw [run_connect_unconnected p h hc]
  simp [calls, hrequests, ofConnection]

/-- A pump that was entered is released from wherever running left it. -/
theorem conduct_entered (p : Pump ω) (h : p.opened.outcome = .ok ())
    (hc : p.attempted.outcome = .ok ())
    (hclose : (Sides.close.run p.ended.sides).outcome = .ok ()) :
    (∃ others, calls (conduct.run (.outside, p)).events = others ++ [Request.close] ∧
        Request.close ∉ others) ∧
      (conduct.run (.outside, p)).state.2.session.hasHandle = false ∧
      (conduct.run (.outside, p)).state.2.session.state = .closed ∧
      (conduct.run (.outside, p)).state.2.session.history =
        p.session.history ++ [.active, .closing, .closed] := by
  obtain ⟨hok, -, -⟩ := run_connect_ok p h hc
  obtain ⟨hstate, hevents⟩ := run_conduct_entered p hok hclose
  obtain ⟨-, htraffic⟩ := leads_run (connect.run p).state (live_connect p h hc)
  obtain ⟨-, hreleased, hlast⟩ := run_release p.ended hclose
  have hhandle := hasHandle_ended p h hc
  have hclosed : calls (release.run p.ended).events = [Request.close] := by
    rw [calls, hlast, hhandle]
    rfl
  have hconnecting : Request.close ∉ calls (connect.run p).events := by
    rw [calls_connect_ok p h hc]
    exact p.close_not_mem_attempted
  rw [hstate, hreleased]
  refine ⟨⟨calls (connect.run p).events ++ calls (run.run (connect.run p).state).events,
    ?_, ?_⟩, rfl, rfl, ?_⟩
  · rw [hevents, calls_append, calls_append, hclosed, List.append_assoc]
  · rw [List.mem_append, not_or]
    exact ⟨hconnecting, not_mem_calls_of_traffic htraffic⟩
  · rcases held_ended p h hc with ⟨hactive, hpast, -⟩ | ⟨hclosing, hpast, -⟩
    · simp [released, hactive, hpast]
    · simp [released, hclosing, hpast]

def atRelease (p : Pump ω) : Pump ω :=
  match p.attempted.outcome with
  | .ok () => p.ended
  | .error _ => p.attempted.state

/-- A pump that is entered, run and left closes the connection that was opened exactly once, as the
last thing it asks of it, and ends closed: by way of all states if it was connected, and at once if
it was not. Without a connection it asks for nothing. -/
theorem conduct_closes_once (logger : String) (limit : Limit) (term : TerminalType)
    (address : Address) (port : Int) (polls : List Poll) (sides : ω) :
    let p := start logger limit term address port polls sides
    let r := conduct.run (.outside, p)
    (p.opened.outcome = .ok () → (Sides.close.run p.atRelease.sides).outcome = .ok () →
      (∃ others, calls r.events = others ++ [Request.close] ∧ Request.close ∉ others) ∧
      r.state.2.session.hasHandle = false ∧
      r.state.2.session.state = .closed ∧
      (p.attempted.outcome = .ok () →
        r.state.2.session.history = [.connecting, .active, .closing, .closed]) ∧
      (∀ f, p.attempted.outcome = .error f →
        r.state.2.session.history = [.connecting, .closed])) ∧
    (∀ f, p.opened.outcome = .error f →
      calls r.events = [] ∧ r.state.2.session.history = [.connecting]) := by
  intro p r
  refine ⟨fun h hclose => ?_, fun f h => ?_⟩
  · cases hc : p.attempted.outcome with
    | ok =>
      rw [atRelease, hc] at hclose
      obtain ⟨hcalls, hhandle, hstate, hhistory⟩ := conduct_entered p h hc hclose
      exact ⟨hcalls, hhandle, hstate, fun _ => hhistory, fun f hf => by cases hf⟩
    | error f =>
      rw [atRelease, hc] at hclose
      obtain ⟨hok, hsession, -⟩ := run_connect_error p h hc hclose
      have hr : r = ⟨_, (.broken, (connect.run p).state), (connect.run p).events⟩ :=
        run_conduct_refused p hok
      have hcalls : calls r.events = calls p.attempted.events ++ [Request.close] := by
        rw [hr]
        exact calls_connect_error p h hc
      rw [hr] at hcalls ⊢
      rw [hsession]
      exact ⟨⟨_, hcalls, p.close_not_mem_attempted⟩, rfl, rfl, (fun hf => by cases hf),
        fun _ _ => rfl⟩
  · obtain ⟨hok, hsession, hrequests⟩ := run_connect_refused p h
    have hr : r = ⟨_, (.broken, (connect.run p).state), (connect.run p).events⟩ :=
      run_conduct_refused p hok
    rw [hr, calls, hrequests, hsession]
    exact ⟨rfl, rfl⟩

theorem conduct_closes_once_failing_read :
    let lost := Failure.system (.raised .general [.number 5, .text "Input/output error"])
    let script : Script :=
      ⟨[], none, [.succeeds], 1500, [.failure lost], [], none, false, false⟩
    let p := start "log" .endless .standard (.v4 7) 23 [⟨false, .ok (some .remote)⟩] script
    p.opened.outcome = .ok () ∧ (Sides.close.run p.atRelease.sides).outcome = .ok () ∧
      p.attempted.outcome = .ok () ∧
      (∃ others, calls (conduct.run (.outside, p)).events = others ++ [Request.close] ∧
        Request.close ∉ others) ∧
      (conduct.run (.outside, p)).state.2.session.history =
        [.connecting, .active, .closing, .closed] := by
  intro lost script
  obtain ⟨hcalls, -, -, hhistory, -⟩ := (conduct_closes_once "log" .endless .standard
    (.v4 7) 23 [⟨false, .ok (some .remote)⟩] script).1 rfl rfl
  exact ⟨rfl, rfl, rfl, hcalls, hhistory rfl⟩

end Pump

end Telnet
