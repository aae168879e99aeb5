import Telnet.Proofs.Session.Lifecycle
import Telnet.Proofs.Session.Serving
import Telnet.Proofs.Session.Surroundings

/-!
# What a session does to a socket

A session makes one socket. Unless that is refused it tries to connect the socket, moves data only
if that succeeds, and closes it last (`used_conduct`).
-/

namespace Telnet

namespace Effect

/-- A socket is made, or called on. -/
def ofSocket : Effect → Bool
  | .created _ | .unblocked | .connecting _ _ | .errorRead | .waitWritable | .closing | .closed
  | .receive _ _ | .sent _ | .sendBlocked | .sendFailed => true
  | _ => false

@[simp] theorem ofSocket_debug (logger : String) (site : Log.Site) (message : Log.Message) :
    (debug logger site message).ofSocket = false := rfl

end Effect

def socketCalls (events : List Event) : List Effect := (effectsOf events).filter Effect.ofSocket

@[simp] theorem socketCalls_append (a b : List Event) :
    socketCalls (a ++ b) = socketCalls a ++ socketCalls b := by
  simp only [socketCalls, effectsOf_append, List.filter_append]

@[simp] theorem socketCalls_asked (r : Request) (events : List Event) :
    socketCalls (.asked r :: events) = socketCalls events := rfl

@[simp] theorem socketCalls_effects (es : List Effect) :
    socketCalls (es.map .effect) = es.filter Effect.ofSocket := by
  rw [socketCalls, effectsOf_effects]

/-- A socket is told that it is going to be closed and is closed right after that; then nothing is
done to sockets any more. -/
def EndsClosed (events : List Event) : Prop :=
  ∃ before after, events = before ++ .effect .closing :: .effect .closed :: after ∧
    socketCalls after = []

theorem EndsClosed.append_left {events : List Event} (h : EndsClosed events)
    (earlier : List Event) : EndsClosed (earlier ++ events) := by
  obtain ⟨before, after, rfl, hafter⟩ := h
  exact ⟨earlier ++ before, after, (List.append_assoc _ _ _).symm, hafter⟩

theorem EndsClosed.append_right {events later : List Event} (h : EndsClosed events)
    (hlater : socketCalls later = []) : EndsClosed (events ++ later) := by
  obtain ⟨before, after, rfl, hafter⟩ := h
  refine ⟨before, after ++ later, ?_, ?_⟩
  · simp only [List.append_assoc, List.cons_append]
  · rw [socketCalls_append, hafter, hlater, List.append_nil]

/-- The course of a socket from when it is made until it is closed. -/
inductive Socket.Used (s : Socket) (address : Address) (port : Int) : List Effect → Prop where
  | refused : s.openFailure ≠ none → Used s address port [.created address.family]
  | unconnected (tried : List Effect) : s.openFailure = none →
      (tried = [] ∨ tried = s.attempt address port) →
      Used s address port (.created address.family :: .unblocked :: (tried ++ [.closing, .closed]))
  | connected (traffic : List Effect) : s.openFailure = none → s.Connects →
      (∀ e ∈ traffic, e.OfTraffic) →
      Used s address port (.created address.family :: .unblocked ::
        (s.attempt address port ++ (traffic ++ [.closing, .closed])))

theorem Socket.filter_attempt (s : Socket) (address : Address) (port : Int) :
    (s.attempt address port).filter Effect.ofSocket = s.attempt address port := by
  unfold attempt settling
  split
  · cases (waitWritable.run s).outcome <;> rfl
  · rfl

def Network.Open (n : Network) : Prop := ∃ link, n.link = some link ∧ link.isOpen = true

theorem Network.coarse_open : Network.Coarse Network.Open := by
  rintro n link link' ⟨l, hlink, hopen⟩ hsome hsame
  rw [hsome] at hlink
  cases hlink
  exact ⟨link', rfl, hsame.trans hopen⟩

namespace Pump

open Surroundings

variable {p : Pump Surroundings}

/-! ### Opening and connecting -/

theorem opened_refused {f : Failure} (h : p.sides.network.nextSocket.openFailure = some f) :
    (∃ g, p.opened.outcome = .error g) ∧
      p.opened.events = [.created p.session.address.family] := by
  rw [opened, run_openFor, h]
  exact ⟨⟨_, rfl⟩, rfl⟩

theorem opened_ok (h : p.sides.network.nextSocket.openFailure = none) :
    p.opened.outcome = .ok () ∧
      p.opened.state.network.link = some (.fresh standardChunk p.sides.network.nextSocket) ∧
      p.opened.events = [.created p.session.address.family, .unblocked] := by
  rw [opened, run_openFor, h]
  exact ⟨rfl, rfl, rfl⟩

def freshLink (p : Pump Surroundings) : Link := .fresh standardChunk p.sides.network.nextSocket

/-- To connect a pump is to connect its connection, unless no limit can be set. -/
theorem attempted_connect (h : p.sides.network.nextSocket.openFailure = none)
    (hlimit : p.limit.check = .ok ()) :
    let r := (Link.connect p.session.address p.session.port).run p.freshLink
    p.attempted.outcome = r.outcome ∧
      p.attempted.state.sides.network.link = some r.state ∧
      p.attempted.events =
        .asked (.connect p.session.address p.session.port) :: r.events.map .effect := by
  intro r
  obtain ⟨-, hlink, -⟩ := opened_ok h
  have hconnect : (Sides.connect p.session.address p.session.port).run p.opened.state = _ :=
    run_onLink (Link.connect p.session.address p.session.port) hlink
  rw [attempted, tryConnect, Act.run_bind_eq, hlimit]
  simp only [Act.run_ofExcept, run_ask, hconnect, List.nil_append]
  exact ⟨rfl, rfl, rfl⟩

theorem attempted_unlimited {f : Failure} (hlimit : p.limit.check = .error f) :
    p.attempted.outcome = .error f ∧ p.attempted.state.sides = p.opened.state ∧
      p.attempted.events = [] := by
  rw [attempted, tryConnect, Act.run_bind_eq, hlimit]
  exact ⟨rfl, rfl, rfl⟩

/-- To connect changes neither the console nor the polls. -/
theorem attempted_same (p : Pump Surroundings) :
    p.attempted.state.sides.console = p.sides.console ∧ p.attempted.state.polls = p.polls := by
  rw [attempted, tryConnect, Act.run_bind_eq]
  cases p.limit.check <;> exact ⟨rfl, rfl⟩

theorem attempted_socket (h : p.sides.network.nextSocket.openFailure = none) :
    let tried := p.sides.network.nextSocket.attempt p.session.address p.session.port
    p.attempted.state.sides.network.Open ∧
      (socketCalls p.attempted.events = [] ∨ socketCalls p.attempted.events = tried) ∧
      (p.attempted.outcome = .ok () → p.sides.network.nextSocket.Connects ∧
        socketCalls p.attempted.events = tried) := by
  intro tried
  cases hlimit : p.limit.check with
  | error f =>
    obtain ⟨-, hlink, -⟩ := opened_ok h
    obtain ⟨houtcome, hsides, hevents⟩ := attempted_unlimited hlimit
    rw [houtcome, hsides, hevents]
    exact ⟨⟨_, hlink, rfl⟩, .inl rfl, fun hok => by cases hok⟩
  | ok =>
    obtain ⟨houtcome, hlink, hevents⟩ := attempted_connect h hlimit
    have hcalls : socketCalls p.attempted.events = tried := by
      rw [hevents, socketCalls_asked, socketCalls_effects, Link.events_connect _ _ rfl]
      exact p.sides.network.nextSocket.filter_attempt _ _
    have hopen := (Link.staysOpen_connect p.session.address p.session.port true p.freshLink rfl).1
    refine ⟨⟨_, hlink, hopen⟩, .inr hcalls, fun hok => ⟨?_, hcalls⟩⟩
    rw [houtcome] at hok
    exact (Link.connect_ok_iff _ _ rfl).1 hok

/-! ### Releasing -/

theorem run_close (h : p.sides.network.Open) :
    (Sides.close.run p.sides).outcome = .ok () ∧
      (Sides.close.run p.sides).events = [.closing, .closed] := by
  obtain ⟨link, hlink, hopen⟩ := h
  have hclose : Sides.close.run p.sides = _ := run_onLink Link.close hlink
  rw [hclose, Link.run_close, if_pos hopen]
  exact ⟨rfl, rfl⟩

theorem run_become (next : SessionState) (p : Pump Surroundings) :
    ∃ record, (become next).run p =
      ⟨.ok (), { p with session := p.session.become next }, [.effect (.logged record)]⟩ :=
  ⟨_, rfl⟩

theorem run_endTraffic (p : Pump Surroundings) :
    (endTraffic.run p).outcome = .ok () ∧ socketCalls (endTraffic.run p).events = [] ∧
      (endTraffic.run p).state.sides = p.sides ∧
      (endTraffic.run p).state.session.hasHandle = p.session.hasHandle := by
  obtain ⟨record, hbecome⟩ := run_become .closing p
  by_cases hactive : p.session.state = .active <;>
    simp [endTraffic, Act.run_bind_eq, hactive, hbecome, socketCalls, Effect.ofSocket,
      Session.become]

theorem run_endSession (p : Pump Surroundings) :
    (endSession.run p).outcome = .ok () ∧ socketCalls (endSession.run p).events = [] := by
  obtain ⟨record, hbecome⟩ := run_become .closed p
  by_cases hclosed : p.session.state = .closed <;>
    simp [endSession, Act.run_bind_eq, hclosed, hbecome, socketCalls, Effect.ofSocket]

theorem run_dropHandle (hhandle : p.session.hasHandle = true) (h : p.sides.network.Open) :
    (dropHandle.run p).outcome = .ok () ∧
      (dropHandle.run p).events = [.asked .close, .effect .closing, .effect .closed] := by
  obtain ⟨hok, hevents⟩ := run_close h
  simp only [dropHandle, Act.run_bind_eq, Act.run_get, hhandle, if_true, run_setHandle, run_ask,
    hok, hevents]
  exact ⟨trivial, rfl⟩

/-- What is released is closed, and nothing else is done to it. -/
theorem events_release (hhandle : p.session.hasHandle = true) (h : p.sides.network.Open) :
    socketCalls (release.run p).events = [.closing, .closed] ∧
      EndsClosed (release.run p).events := by
  obtain ⟨hok₁, hcalls₁, hsides, hsame⟩ := run_endTraffic p
  obtain ⟨hok₂, hevents₂⟩ := run_dropHandle (p := (endTraffic.run p).state) (hsame.trans hhandle)
    (hsides ▸ h)
  obtain ⟨-, hcalls₃⟩ := run_endSession (dropHandle.run (endTraffic.run p).state).state
  have hevents : (release.run p).events = (endTraffic.run p).events ++
      ([.asked .close, .effect .closing, .effect .closed] ++
        (endSession.run (dropHandle.run (endTraffic.run p).state).state).events) := by
    rw [release_eq]
    simp only [Act.run_bind_eq, hok₁, hok₂, hevents₂]
  rw [hevents]
  refine ⟨?_, (EndsClosed.append_right ⟨[.asked .close], [], rfl, rfl⟩ hcalls₃).append_left _⟩
  rw [socketCalls_append, socketCalls_append, hcalls₁, hcalls₃]
  rfl

/-! ### Running -/

theorem of_mem_socketCalls_run {kind : InputKind} {events : List Event} {e : Effect}
    (h : ∀ event ∈ events, Event.Only (Effect.OfSession kind) event)
    (he : e ∈ socketCalls events) : e.OfTraffic := by
  obtain ⟨hmem, hsocket⟩ := List.mem_filter.1 he
  rcases h _ (mem_effectsOf.1 hmem) e rfl with hconsole | htraffic | ⟨seconds, rfl⟩ | ⟨seconds, rfl⟩
  · cases e <;> first | exact hconsole.elim | cases hsocket
  · exact htraffic
  · cases hsocket
  · cases hsocket

/-- While a session lasts its connection stays open, and is used for nothing but traffic. -/
theorem run_socket (h : p.sides.network.Open) :
    (run.run p).state.sides.network.Open ∧
      ∀ e ∈ socketCalls (run.run p).events, e.OfTraffic := by
  have hkeeps := keeps_alike (c := p.sides.console) Network.coarse_open
  obtain ⟨⟨-, hopen⟩, hevents⟩ := (invariant_of_sides hkeeps).leads_run p ⟨.refl _, h⟩
  exact ⟨hopen, fun e he => of_mem_socketCalls_run hevents he⟩

/-! ### From entering to leaving -/

theorem socketCalls_settle_ok (limit : Limit) (address : Address) (port : Int)
    (p : Pump Surroundings) :
    socketCalls ((settle limit address port (.ok ())).run p).events = [] := rfl

/-- A pump that cannot be connected closes the socket before it fails. -/
theorem connect_unconnected (h : p.sides.network.nextSocket.openFailure = none) {f : Failure}
    (hc : p.attempted.outcome = .error f) :
    let r := connect.run p
    r.outcome = .error (reported p.limit p.session.address p.session.port f) ∧
      r.state.session = released { p.session with hasHandle := true } ∧
      EndsClosed r.events ∧
      socketCalls r.events = .created p.session.address.family :: .unblocked ::
        (socketCalls p.attempted.events ++ [.closing, .closed]) := by
  intro r
  obtain ⟨hok, -, hopened⟩ := opened_ok h
  obtain ⟨hopen, -, -⟩ := attempted_socket h
  obtain ⟨hfailed, hsession, -⟩ := run_connect_error p hok hc (run_close hopen).1
  have hhandle : p.attempted.state.session.hasHandle = true := by rw [p.attempted_eq.1]
  obtain ⟨hcalls, hends⟩ := events_release hhandle hopen
  have hevents : r.events = .asked (.openFor p.session.address.family) ::
      (p.opened.events.map .effect ++
        (p.attempted.events ++ (release.run p.attempted.state).events)) := by
    simp only [r, run_connect_unconnected p hok hc]
  refine ⟨hfailed, hsession, ?_, ?_⟩
  · rw [hevents]
    exact ((hends.append_left _).append_left _).append_left [_]
  · rw [hevents]
    simp only [socketCalls_asked, socketCalls_append, socketCalls_effects, hopened, hcalls]
    rfl

theorem conduct_unconnected (h : p.sides.network.nextSocket.openFailure = none) {f : Failure}
    (hc : p.attempted.outcome = .error f) :
    conduct.run (.outside, p) =
      ⟨.error (reported p.limit p.session.address p.session.port f),
        (.broken, (connect.run p).state), (connect.run p).events⟩ :=
  run_conduct_refused p (connect_unconnected h hc).1

theorem open_connect (h : p.sides.network.nextSocket.openFailure = none)
    (hc : p.attempted.outcome = .ok ()) : (connect.run p).state.sides.network.Open := by
  obtain ⟨hopen, -, -⟩ := attempted_socket h
  obtain ⟨-, hstate, -⟩ := run_connect_ok p (opened_ok h).1 hc
  rw [hstate]
  exact hopen

theorem conduct_connected (h : p.sides.network.nextSocket.openFailure = none)
    (hc : p.attempted.outcome = .ok ()) :
    let events := (conduct.run (.outside, p)).events
    EndsClosed events ∧ ∃ traffic, (∀ e ∈ traffic, e.OfTraffic) ∧
      socketCalls events = .created p.session.address.family :: .unblocked ::
        (socketCalls p.attempted.events ++ (traffic ++ [.closing, .closed])) := by
  intro events
  obtain ⟨hok, -, hopened⟩ := opened_ok h
  obtain ⟨hentered, -, -⟩ := run_connect_ok p hok hc
  have hconnect : socketCalls (connect.run p).events =
      .created p.session.address.family :: .unblocked :: socketCalls p.attempted.events := by
    rw [run_connect_opened p hok, hc]
    simp only [socketCalls_asked, socketCalls_append, socketCalls_effects, hopened,
      socketCalls_settle_ok, List.append_nil]
    rfl
  obtain ⟨hended, htraffic⟩ := run_socket (open_connect h hc)
  obtain ⟨hcalls, hends⟩ := events_release (hasHandle_ended p hok hc) hended
  obtain ⟨-, hall⟩ := run_conduct_entered p hentered (run_close hended).1
  change events = _ at hall
  rw [hall]
  refine ⟨(hends.append_left _).append_left _,
    socketCalls (run.run (connect.run p).state).events, htraffic, ?_⟩
  rw [socketCalls_append, socketCalls_append, hconnect, hcalls]
  simp only [List.cons_append]

/-- The course of the socket of a pump that is entered, run and left. -/
theorem used_conduct (p : Pump Surroundings) :
    let events := (conduct.run (.outside, p)).events
    p.sides.network.nextSocket.Used p.session.address p.session.port (socketCalls events) ∧
      (p.sides.network.nextSocket.openFailure = none → EndsClosed events) := by
  intro events
  cases hopen : p.sides.network.nextSocket.openFailure with
  | some f =>
    obtain ⟨⟨g, hrefused⟩, hopened⟩ := opened_refused hopen
    have hevents : events = .asked (.openFor p.session.address.family) ::
        p.opened.events.map .effect := by
      simp only [events]
      rw [run_conduct_refused p (run_connect_refused p hrefused).1]
      exact events_connect_refused p hrefused
    have hcalls : socketCalls events = [.created p.session.address.family] := by
      rw [hevents, socketCalls_asked, socketCalls_effects, hopened]
      rfl
    rw [hcalls]
    exact ⟨.refused (by rw [hopen]; exact Option.some_ne_none f), fun h => by cases h⟩
  | none =>
    obtain ⟨-, htried, hconnected⟩ := attempted_socket hopen
    cases hc : p.attempted.outcome with
    | error f =>
      obtain ⟨-, -, hends, hcalls⟩ := connect_unconnected hopen hc
      have hevents : events = (connect.run p).events := by
        simp only [events, conduct_unconnected hopen hc]
      rw [hevents, hcalls]
      exact ⟨.unconnected _ hopen htried, fun _ => hends⟩
    | ok =>
      obtain ⟨hconnects, hattempt⟩ := hconnected hc
      obtain ⟨hends, traffic, htraffic, hcalls⟩ := conduct_connected hopen hc
      rw [hcalls, hattempt]
      exact ⟨.connected traffic hopen hconnects htraffic, fun _ => hends⟩

end Pump

end Telnet
