import Telnet.Proofs.Client.Holding
import Telnet.Proofs.Session.Request

/-!
# Before a session

A call first finds out where to connect to. That leaves the surroundings alone but for questions and
records, and only if it succeeds there is a session (`run_eq`). What is found depends on nothing but
the call (`outcome_destination`).
-/

namespace Telnet

def Effect.OfResolution : Effect → Prop
  | .logged _ | .resolve _ | .lookup _ => True
  | _ => False

namespace Resolution

theorem leads_resolve {σ : Type} {P : σ → Prop} (logger : String) (resolver : Resolver)
    (host : String) :
    (resolve logger resolver host : Act Effect σ Address).Leads P Effect.OfResolution P := by
  have hask : (ask resolver host : Act Effect σ Answer).Leads P Effect.OfResolution P := by
    cases resolver with
    | given answer =>
      refine .andThen (.emit trivial) fun _ => ?_
      exact .ofExcept
    | service names =>
      refine .andThen (.emit trivial) fun _ => ?_
      refine .andThen .ofExcept fun entries => ?_
      cases firstInternet? entries with
      | some address => exact .pure _
      | none => exact .throw _
  unfold resolve
  refine .ite (fun _ => ?_) fun _ => ?_
  · cases Address.ofText? host with
    | some address => exact .pure _
    | none => exact .throw _
  · refine .andThen (.tryCatch hask fun f => .throw _) fun answer => ?_
    exact .andThen (.emit trivial) fun _ => .ofExcept

def answer : Resolver → Except Failure Answer
  | .given answer => answer
  | .service (.error f) => .error f
  | .service (.ok entries) => match firstInternet? entries with
    | some address => .ok (.text address)
    | none => .error nothingFound

theorem outcome_ask {σ : Type} (resolver : Resolver) (host : String) (s : σ) :
    ((ask resolver host).run s).outcome = answer resolver := by
  cases resolver with
  | given answer => rfl
  | service names =>
    cases names with
    | error f => rfl
    | ok entries =>
      cases hfirst : firstInternet? entries <;> simp [ask, answer, Act.run_bind_eq, hfirst]

/-- The address of a host, or why none is found. -/
def found (resolver : Resolver) (host : String) : Except Failure Address :=
  if isLiteral host then
    match Address.ofText? host with
    | some address => .ok address
    | none => .error (.client (.invalidAddress (.text host)))
  else match answer resolver with
    | .ok answer => answer.address
    | .error f => .error (reported host f)

theorem outcome_resolve {σ : Type} (logger : String) (resolver : Resolver) (host : String)
    (s : σ) : ((resolve logger resolver host).run s).outcome = found resolver host := by
  unfold resolve found
  by_cases hliteral : isLiteral host = true
  · rw [if_pos hliteral, if_pos hliteral]
    cases Address.ofText? host <;> rfl
  · rw [if_neg hliteral, if_neg hliteral, Act.run_bind_eq]
    have hcatch : ((tryCatch (ask resolver host) fun f => throw (reported host f)).run s).outcome =
        match answer resolver with
        | .ok answer => .ok answer
        | .error f => .error (reported host f) := by
      rw [Act.run_tryCatch, ← outcome_ask resolver host s]
      rcases (ask resolver host).run s with ⟨_ | _, _, _⟩ <;> rfl
    rw [hcatch]
    cases answer resolver with
    | ok answer => simp [Act.run_bind_eq]
    | error f => rfl

end Resolution

namespace Call

section

variable {ω : Type}

/-- Where a call connects to: the endpoint that it names, and the address of its host. -/
def destination (call : Call) : Act Event ω (Endpoint × Address) := do
  let endpoint ← .ofExcept (Endpoint.ofText call.target)
  let address ← effects (Resolution.resolve Log.clientLogger call.resolver endpoint.host)
  return (endpoint, address)

theorem leads_destination (call : Call) {P : ω → Prop} {E : Event → Prop}
    (hE : ∀ e : Effect, e.OfResolution → E (.effect e)) : call.destination.Leads P E P := by
  unfold destination
  refine .andThen .ofExcept fun endpoint => ?_
  refine .andThen (.mapEvents ?_) fun _ => .pure _
  exact (Resolution.leads_resolve _ _ _).allow hE

/-- To find out where to connect to leaves the surroundings as they were. -/
theorem state_destination (call : Call) (s : ω) : (call.destination.run s).state = s :=
  (call.leads_destination (P := fun t => t = s) (E := fun _ => True) (fun _ _ => trivial) s rfl).1

def announce (destination : Endpoint × Address) : Act Event ω Unit :=
  effects (.emit (.debug Log.clientLogger .connecting
    [.words "Connecting to ", .plain destination.1.datum, .words " (",
      .plain destination.2.datum, .words ")"]))

theorem onSides_bind {α β : Type} (x : Act Event ω α) (f : α → Act Event ω β) :
    onSides (x >>= f) = onSides x >>= fun a => onSides (f a) := by
  refine Act.ext fun s => ?_
  simp only [onSides, Act.run_on, Act.run_bind_eq]
  cases (x.run s.2).outcome <;> rfl

@[simp] theorem run_announce (destination : Endpoint × Address) (s : ω) :
    (announce destination).run s = ⟨.ok (), s, [.effect (.debug Log.clientLogger .connecting
      [.words "Connecting to ", .plain destination.1.datum, .words " (",
        .plain destination.2.datum, .words ")"])]⟩ := rfl

variable [Sides ω]

/-- A session with a destination, in a block whose tasks a library runs. -/
def visitIn (lib : TaskLibrary ω) (call : Call) (destination : Endpoint × Address) :
    Act Event (List TaskEnding × ω) Session := do
  onSides (announce destination)
  let term ← .ofExcept call.term
  holdOver lib call.routesInterrupts
    (.start Log.clientLogger call.limit term destination.2 destination.1.port call.polls)

def visit (call : Call) (destination : Endpoint × Address) : Act Event ω Session := do
  announce destination
  let term ← .ofExcept call.term
  conduct (.start Log.clientLogger call.limit term destination.2 destination.1.port call.polls)

theorem runIn_eq (lib : TaskLibrary ω) (call : Call) :
    call.runIn lib = onSides call.destination >>= call.visitIn lib := by
  have hread : (onSides (ω := ω) (.ofExcept (Endpoint.ofText call.target))) =
      .ofExcept (Endpoint.ofText call.target) := rfl
  have hpair : ∀ pair : Endpoint × Address, onSides (ω := ω) (pure pair) = pure pair :=
    fun _ => rfl
  simp only [runIn, destination, onSides_bind, hread, hpair, bind_assoc, pure_bind]
  rfl

theorem run_eq (call : Call) : (call.run : Act Event ω Session) = call.destination >>= call.visit := by
  refine Act.ext fun s => ?_
  have hrun : call.run.run s =
      let ran := (call.runIn .prompt).run ([], s)
      ⟨ran.outcome, ran.state.2, ran.events⟩ := rfl
  rw [hrun, runIn_eq]
  simp only [Act.run_bind_eq, onSides, Act.run_on]
  cases (call.destination.run s).outcome with
  | error f => rfl
  | ok destination =>
    simp only [visitIn, visit, onSides, Act.run_bind_eq, Act.run_on]
    cases call.term with
    | error f => rfl
    | ok term =>
      obtain ⟨houtcome, hstate, hevents⟩ := run_holdOver_prompt call.routesInterrupts
        (.start Log.clientLogger call.limit term destination.2 destination.1.port call.polls) []
        (call.destination.run s).state
      simp [houtcome, hstate, hevents]

end

def goal (call : Call) : Except Failure (Endpoint × Address) :=
  match Endpoint.ofText call.target with
  | .ok endpoint => (Resolution.found call.resolver endpoint.host).map fun address =>
    (endpoint, address)
  | .error f => .error f

theorem outcome_destination {ω : Type} (call : Call) (s : ω) :
    (call.destination.run s).outcome = call.goal := by
  unfold destination goal
  rw [Act.run_bind_eq]
  cases Endpoint.ofText call.target with
  | error f => rfl
  | ok endpoint =>
    have hresolve := Resolution.outcome_resolve Log.clientLogger call.resolver endpoint.host s
    cases hfound : Resolution.found call.resolver endpoint.host <;>
      simp [effects, hresolve, hfound, Except.map]

theorem goal_ok {call : Call} {endpoint : Endpoint} {address : Address}
    (h : call.goal = .ok (endpoint, address)) :
    Endpoint.ofText call.target = .ok endpoint ∧
      Resolution.found call.resolver endpoint.host = .ok address := by
  unfold goal at h
  cases hread : Endpoint.ofText call.target with
  | error f =>
    rw [hread] at h
    cases h
  | ok read =>
    rw [hread] at h
    cases hfound : Resolution.found call.resolver read.host with
    | error f => simp [hfound, Except.map] at h
    | ok b =>
      simp only [hfound, Except.map] at h
      cases h
      exact ⟨rfl, hfound⟩

end Call

end Telnet
