import Telnet.Proofs.Console.Echo
import Telnet.Proofs.Negotiation.Echo
import Telnet.Proofs.Session.Turn
import Telnet.Session.Surroundings

/-!
# The engine and the console that it switches

Whether the remote host echoes is kept three times: by the engine, by the console, and as a flag of
the terminal. They stay in step whatever the engine reads or is asked to answer
(`uses_keep_echo_in_step`), since each switch that the engine notes is made at once, and it notes
one exactly when its own flag changes.
-/

namespace Telnet

def Request.switched? : Request → Option Bool
  | .echo enabled => some enabled
  | _ => none

/-- What a trace switches the local echo to, one switch after the other. -/
def switches (events : List Event) : List Bool := (requests events).filterMap Request.switched?

theorem switches_append (a b : List Event) : switches (a ++ b) = switches a ++ switches b := by
  simp only [switches, requests_append, List.filterMap_append]

theorem switches_effects (es : List Effect) : switches (es.map .effect) = [] := by
  rw [switches, requests_effects, List.filterMap_nil]

theorem switches_asked (r : Request) (events : List Event) :
    switches (.asked r :: events) = r.switched?.toList ++ switches events := by
  simp only [switches, requests_asked, List.filterMap_cons]
  cases r.switched? <;> rfl

namespace Pump

/-! ### One use -/

section

variable {ω : Type} [Sides ω]

def withEngine (p : Pump ω) (e : Engine) : Pump ω :=
  { p with session := { p.session with engine := e } }

def heed (fed : Fed) : Act Event (Pump ω) Fed := do
  modify fun p => p.withEngine fed.engine
  fed.notes.forM perform
  return fed

def use (u : Engine.Use) : Act Event (Pump ω) Fed := do heed ((← get).session.engine.use u)

/-- What a pump does with a chunk that it has read is one of these uses. -/
theorem feed_eq_use (chunk : Bytes) : (feed chunk : Act Event (Pump ω) Fed) = use (.feed chunk) :=
  rfl

theorem run_heed (fed : Fed) (p : Pump ω) :
    (heed fed).run p =
      let r := (fed.notes.forM perform).run (p.withEngine fed.engine)
      ⟨r.outcome.map fun _ => fed, r.state, r.events⟩ := by
  simp only [heed, Act.run_bind_eq, Act.run_modify, List.nil_append]
  cases ((fed.notes.forM perform).run (p.withEngine fed.engine)).outcome with
  | error f => rfl
  | ok => simp [Except.map]

end

def withConsole (p : Pump Surroundings) (c : Console) : Pump Surroundings :=
  { p with sides := { p.sides with console := c } }

variable {others : OtherItems} {flags : Int} {p : Pump Surroundings}

theorem run_perform_echo (hmode : p.sides.console.mode = others.mode flags) (enabled : Bool) :
    ((perform (.echo enabled)).run p).outcome = .ok () ∧
      ((perform (.echo enabled)).run p).state =
        p.withConsole (p.sides.console.echoing enabled) ∧
      ((perform (.echo enabled)).run p).events =
        .asked (.echo enabled) ::
          ((Console.setEcho enabled).run p.sides.console).events.map .effect := by
  obtain ⟨hok, -⟩ := Console.run_setEcho hmode enabled
  exact ⟨hok, rfl, rfl⟩

theorem run_perform_note {n : Note} (h : n.switch? = none) (p : Pump Surroundings) :
    ∃ r, (perform n).run p = ⟨.ok (), p, [.effect (.logged r)]⟩ := by
  cases n with
  | echo enabled => cases h
  | ignored | received | told => exact ⟨_, rfl⟩

/-- What is noted is done: the console is switched as often as that was noted, and it is told so
only if it is a terminal. -/
theorem run_performs (hmode : p.sides.console.mode = others.mode flags) (notes : List Note) :
    let r := (notes.forM perform).run p
    r.outcome = .ok () ∧
      r.state = p.withConsole ((switched notes).foldl Console.echoing p.sides.console) ∧
      switches r.events = switched notes ∧
      ∀ change mode, .effect (.modeSet change mode) ∈ r.events →
        p.sides.console.kind = .terminal := by
  induction notes generalizing p flags with
  | nil => exact ⟨rfl, rfl, rfl, fun _ _ hmem => by cases hmem⟩
  | cons n notes ih =>
    intro r
    have hr : r = (perform n >>= fun _ => notes.forM perform).run p := rfl
    rw [Act.run_bind_eq] at hr
    cases hn : n.switch? with
    | none =>
      obtain ⟨record, hnote⟩ := run_perform_note hn p
      obtain ⟨hok, hstate, hswitches, hset⟩ := ih hmode
      have hsame : switched (n :: notes) = switched notes := by
        rw [switched, List.filterMap_cons, hn]
        rfl
      rw [hnote] at hr
      rw [hr, hsame]
      refine ⟨hok, hstate, ?_, fun change mode hmem => ?_⟩
      · rw [switches_append, hswitches]
        rfl
      · rcases List.mem_append.1 hmem with hmem | hmem
        · simp at hmem
        · exact hset change mode hmem
    | some enabled =>
      obtain rfl : n = .echo enabled := by
        cases n with
        | echo b =>
          cases hn
          rfl
        | _ => cases hn
      obtain ⟨hok₁, hstate₁, hevents₁⟩ := run_perform_echo hmode enabled
      obtain ⟨flags', hmode'⟩ := Console.mode_echoing hmode enabled
      have hrest := ih (p := p.withConsole (p.sides.console.echoing enabled)) hmode'
      obtain ⟨hok, hstate, hswitches, hset⟩ := hrest
      have hsame : switched (.echo enabled :: notes) = enabled :: switched notes := rfl
      rw [hok₁, hstate₁, hevents₁] at hr
      rw [hr, hsame]
      refine ⟨hok, hstate, ?_, fun change mode hmem => ?_⟩
      · rw [switches_append, switches_asked, switches_effects, hswitches]
        rfl
      · rcases List.mem_append.1 hmem with hmem | hmem
        · obtain ⟨e, he, heq⟩ : ∃ e ∈ ((Console.setEcho enabled).run p.sides.console).events,
              Event.effect e = .effect (.modeSet change mode) := by
            simpa using hmem
          cases heq
          exact ((Console.leads_setEcho enabled _ (.refl p.sides.console)).2 _ he).1
        · have hkind := hset change mode hmem
          have hsame := (Console.run_setEcho hmode enabled).2
          change (p.sides.console.echoing enabled).kind = .terminal at hkind
          rwa [hsame] at hkind

theorem run_use (hmode : p.sides.console.mode = others.mode flags) (u : Engine.Use) :
    let e := p.session.engine
    let calls := echoSwitches e.suppressed u.answered
    let r := (use u).run p
    r.outcome = .ok (e.use u) ∧
      r.state.session.engine = ⟨e.term, u.answered.foldl Proposal.suppresses e.suppressed⟩ ∧
      r.state.sides.console = calls.foldl Console.echoing p.sides.console ∧
      switches r.events = calls ∧
      ∀ change mode, .effect (.modeSet change mode) ∈ r.events →
        p.sides.console.kind = .terminal := by
  intro e calls r
  have hcalls : switched (e.use u).notes = calls := e.switched_use u
  obtain ⟨hok, hstate, hswitches, hset⟩ :=
    run_performs (p := p.withEngine (e.use u).engine) hmode (e.use u).notes
  have hr : r = (heed (e.use u)).run p := rfl
  simp only [run_heed, hok, hstate, hcalls, Except.map] at hr
  rw [hr]
  exact ⟨rfl, e.use_engine u, rfl, hswitches.trans hcalls, hset⟩

/-! ### Any number of uses -/

theorem run_uses (hmode : p.sides.console.mode = others.mode flags) (uses : List Engine.Use) :
    let e := p.session.engine
    let answered := uses.flatMap Engine.Use.answered
    let calls := echoSwitches e.suppressed answered
    let r := (uses.mapM use).run p
    (∃ feds, r.outcome = .ok feds ∧
        feds.flatMap Fed.response = answered.flatMap fun q => q.wireReply e.term) ∧
      r.state.session.engine = ⟨e.term, answered.foldl Proposal.suppresses e.suppressed⟩ ∧
      r.state.sides.console = calls.foldl Console.echoing p.sides.console ∧
      switches r.events = calls ∧
      ∀ change mode, .effect (.modeSet change mode) ∈ r.events →
        p.sides.console.kind = .terminal := by
  induction uses generalizing p flags with
  | nil => exact ⟨⟨[], rfl, rfl⟩, rfl, rfl, rfl, fun _ _ hmem => by cases hmem⟩
  | cons u uses ih =>
    intro e answered calls r
    obtain ⟨hok₁, hengine₁, hconsole₁, hswitches₁, hset₁⟩ := run_use hmode u
    -- The mode keeps its form, so that the rest starts as this use did.
    obtain ⟨flags', hmode', -⟩ :=
      Console.foldl_echoing hmode (echoSwitches e.suppressed u.answered)
    rw [← hconsole₁] at hmode'
    obtain ⟨⟨feds, hok, hresponse⟩, hengine, hconsole, hswitches, hset⟩ := ih hmode'
    have hanswered : answered = u.answered ++ uses.flatMap Engine.Use.answered := rfl
    have hcalls : calls = echoSwitches e.suppressed u.answered ++
        echoSwitches (u.answered.foldl Proposal.suppresses e.suppressed)
          (uses.flatMap Engine.Use.answered) := by
      rw [← echoSwitches_append, ← hanswered]
    have hr : r = (do
        let fed ← use u
        let feds ← uses.mapM use
        pure (fed :: feds)).run p := by
      rw [← List.mapM_cons]
    simp only [Act.run_bind_eq, hok₁, hok, Act.run_pure, List.append_nil] at hr
    rw [hengine₁] at hresponse hengine hconsole hswitches
    rw [hr]
    refine ⟨⟨_, rfl, ?_⟩, ?_, ?_, ?_, fun change mode hmem => ?_⟩
    · rw [List.flatMap_cons, hresponse, e.use_response, hanswered, List.flatMap_append]
    · rw [hengine, hanswered, List.foldl_append]
    · rw [hconsole, hconsole₁, hcalls, List.foldl_append]
    · rw [switches_append, hswitches₁, hswitches, hcalls]
    · rcases List.mem_append.1 hmem with hmem | hmem
      · exact hset₁ change mode hmem
      · have hkind := hset change mode hmem
        rwa [hconsole₁, (Console.foldl_echoing_frame hmode _).1] at hkind

/-- An engine that switches the echo of a console which was just entered: however often and on
whatever it is used, the console echoes exactly if the remote host does not. Each change of that is
one switch, the first of them off and then on and off by turns, while every proposal is
acknowledged. A terminal keeps all of its mode but the flag of the echo, which is what the last
switch made it; anything else has no mode set. -/
theorem uses_keep_echo_in_step (logger : String) (limit : Limit) (term : TerminalType)
    (address : Address) (port : Int) (polls : List Poll) (network : Network) (kind : InputKind)
    (others : OtherItems) (lflag : Int) (input : Bytes) (failure : Option Failure)
    (uses : List Engine.Use) :
    let entered := (Console.enter.run (.fresh kind (others.mode lflag) input failure)).state
    let r := (uses.mapM use).run
      (start logger limit term address port polls (Surroundings.mk entered network))
    let console := r.state.sides.console
    let engine := r.state.session.engine
    let answered := uses.flatMap Engine.Use.answered
    let course := (Engine.start term).course answered
    let calls := switches r.events
    (∃ feds, r.outcome = .ok feds ∧
        feds.flatMap Fed.response = answered.flatMap fun p => p.wireReply term) ∧
      course.getLast? = some engine ∧
      console.echo = !engine.suppressed ∧
      (true :: calls).IsChain (· ≠ ·) ∧
      calls.length = flips (course.map Engine.suppressed) ∧
      (kind = .terminal → ∃ lflag', console.mode = others.mode lflag' ∧
        (∀ b, b ≠ echoBit → lflag'.testBit b = lflag.testBit b) ∧
        (calls ≠ [] → lflag'.testBit echoBit = console.echo)) ∧
      (kind ≠ .terminal → ∀ change mode, .effect (.modeSet change mode) ∉ r.events) := by
  intro entered r console engine answered course calls
  have hentered := Console.run_enter (.fresh kind (others.mode lflag) input failure)
    fun _ => others.length_mode lflag
  obtain ⟨hkind₀, hmode, hecho₀⟩ :
      entered.kind = kind ∧ entered.mode = others.mode lflag ∧ entered.echo = true := by
    simp only [entered, hentered]
    split <;> exact ⟨rfl, rfl, rfl⟩
  obtain ⟨hresponse, hengine, hconsole, hcalls, hset⟩ := run_uses
    (p := start logger limit term address port polls (Surroundings.mk entered network)) hmode uses
  change engine = _ at hengine
  change console = (echoSwitches false answered).foldl Console.echoing entered at hconsole
  change calls = echoSwitches false answered at hcalls
  obtain ⟨hkind, hecho⟩ := Console.foldl_echoing_frame hmode (echoSwitches false answered)
  rw [← hconsole, hkind₀] at hkind
  rw [← hconsole, hecho₀] at hecho
  have hlast : console.echo = !engine.suppressed := by
    rw [hecho, hengine]
    exact getLastD_echoSwitches false answered
  refine ⟨hresponse, ?_, hlast, ?_, ?_, fun hterminal => ?_, fun hother change mode hmem => ?_⟩
  · rw [hengine]
    exact Engine.getLast?_course _ answered
  · rw [hcalls]
    exact isChain_echoSwitches false answered
  · rw [hcalls, length_echoSwitches, Engine.map_suppressed_course]
    rfl
  · obtain ⟨lflag', hmode', hreflects, hbits⟩ :=
      Console.foldl_echoing hmode (echoSwitches false answered)
    rw [← hconsole] at hmode' hreflects
    refine ⟨lflag', hmode', hbits, fun hsome => ?_⟩
    rw [hcalls] at hsome
    exact hreflects (.inl hsome) (hkind.trans hterminal)
  · exact hother (hkind₀.symm.trans (hset change mode hmem))

end Pump

end Telnet
