import Telnet.Proofs.Act
import Telnet.Session.Pump

/-!
# What a pump asks for

The trace of a pump holds its requests in their order, among the effects of its sides. Each part of
a pump is described by how it goes (`run_ask` and its like) and by where it leads.
-/

namespace Telnet

def requests (events : List Event) : List Request := events.filterMap Event.request?

@[simp] theorem requests_nil : requests [] = [] := rfl

@[simp] theorem requests_append (a b : List Event) :
    requests (a ++ b) = requests a ++ requests b := by
  simp only [requests, List.filterMap_append]

@[simp] theorem requests_asked (r : Request) (events : List Event) :
    requests (.asked r :: events) = r :: requests events := rfl

@[simp] theorem requests_effect (e : Effect) (events : List Event) :
    requests (.effect e :: events) = requests events := rfl

@[simp] theorem requests_effects (es : List Effect) : requests (es.map .effect) = [] := by
  induction es with
  | nil => rfl
  | cons e es ih => rw [List.map_cons, requests_effect, ih]

def effectsOf (events : List Event) : List Effect := events.filterMap Event.effect?

@[simp] theorem effectsOf_nil : effectsOf [] = [] := rfl

@[simp] theorem effectsOf_asked (r : Request) (events : List Event) :
    effectsOf (.asked r :: events) = effectsOf events := rfl

@[simp] theorem effectsOf_effect (e : Effect) (events : List Event) :
    effectsOf (.effect e :: events) = e :: effectsOf events := rfl

@[simp] theorem effectsOf_append (a b : List Event) :
    effectsOf (a ++ b) = effectsOf a ++ effectsOf b := by
  simp only [effectsOf, List.filterMap_append]

@[simp] theorem effectsOf_effects (es : List Effect) : effectsOf (es.map .effect) = es := by
  induction es with
  | nil => rfl
  | cons e es ih => rw [List.map_cons, effectsOf_effect, ih]

theorem mem_effectsOf {events : List Event} {e : Effect} :
    e ∈ effectsOf events ↔ .effect e ∈ events := by
  refine ⟨fun h => ?_, fun h => List.mem_filterMap.2 ⟨_, h, rfl⟩⟩
  obtain ⟨event, hevent, heq⟩ := List.mem_filterMap.1 h
  cases event with
  | effect e' =>
    cases heq
    exact hevent
  | asked => cases heq

def Request.sent? : Request → Option Bytes
  | .write bytes => some bytes
  | _ => none

def Request.shown? : Request → Option Bytes
  | .display bytes => some bytes
  | _ => none

/-- What a trace sends, one write after the other. -/
def writes (events : List Event) : List Bytes := (requests events).filterMap Request.sent?

/-- What a trace shows, one display after the other. -/
def displays (events : List Event) : List Bytes := (requests events).filterMap Request.shown?

@[simp] theorem writes_nil : writes [] = [] := rfl

@[simp] theorem writes_append (a b : List Event) : writes (a ++ b) = writes a ++ writes b := by
  simp only [writes, requests_append, List.filterMap_append]

@[simp] theorem displays_nil : displays [] = [] := rfl

@[simp] theorem writes_asked (r : Request) (events : List Event) :
    writes (.asked r :: events) = r.sent?.toList ++ writes events := by
  simp only [writes, requests_asked, List.filterMap_cons]
  cases r.sent? <;> rfl

@[simp] theorem writes_effects (es : List Effect) : writes (es.map .effect) = [] := by
  rw [writes, requests_effects, List.filterMap_nil]

@[simp] theorem displays_asked (r : Request) (events : List Event) :
    displays (.asked r :: events) = r.shown?.toList ++ displays events := by
  simp only [displays, requests_asked, List.filterMap_cons]
  cases r.shown? <;> rfl

@[simp] theorem displays_effects (es : List Effect) : displays (es.map .effect) = [] := by
  rw [displays, requests_effects, List.filterMap_nil]

theorem writes_flatMap {β : Type} (l : List β) (f : β → List Event) :
    writes (l.flatMap f) = l.flatMap fun b => writes (f b) := by
  induction l with
  | nil => rfl
  | cons b l ih => rw [List.flatMap_cons, writes_append, ih, List.flatMap_cons]

namespace Pump

variable {ω α : Type}

/-! ### How the parts go -/

@[simp] theorem run_note (site : Log.Site) (message : Log.Message) (p : Pump ω) :
    (note site message).run p = ⟨.ok (), p, [.effect (.debug p.logger site message)]⟩ := rfl

@[simp] theorem run_onSides (x : Act Effect ω α) (p : Pump ω) :
    (onSides x).run p =
      ⟨(x.run p.sides).outcome, { p with sides := (x.run p.sides).state },
        (x.run p.sides).events.map .effect⟩ := rfl

@[simp] theorem run_ask (r : Request) (x : Act Effect ω α) (p : Pump ω) :
    (ask r x).run p =
      ⟨(x.run p.sides).outcome, { p with sides := (x.run p.sides).state },
        .asked r :: (x.run p.sides).events.map .effect⟩ := rfl

@[simp] theorem run_setHandle (present : Bool) (p : Pump ω) :
    (setHandle present).run p =
      ⟨.ok (), { p with session := { p.session with hasHandle := present } }, []⟩ := rfl

@[simp] theorem outcome_become (next : SessionState) (p : Pump ω) :
    ((become next).run p).outcome = .ok () := rfl

@[simp] theorem state_become (next : SessionState) (p : Pump ω) :
    ((become next).run p).state = { p with session := p.session.become next } := rfl

@[simp] theorem requests_become (next : SessionState) (p : Pump ω) :
    requests ((become next).run p).events = [] := rfl

/-! ### Where the parts lead -/

variable {P Q : Pump ω → Prop} {E : Event → Prop}

theorem leads_note (site : Log.Site) (message : Log.Message) (he : ∀ r, E (.effect (.logged r)))
    (h : ∀ p, P p → Q p) : (note site message).Leads P E Q := by
  intro p hp
  refine ⟨h p hp, ?_⟩
  intro e hmem
  rw [run_note, List.mem_singleton] at hmem
  rw [hmem]
  exact he _

theorem leads_onSides (x : Act Effect ω α) (he : ∀ e, E (.effect e))
    (h : ∀ p s, P p → Q { p with sides := s }) : (onSides x).Leads P E Q := by
  intro p hp
  refine ⟨h p _ hp, ?_⟩
  intro e hmem
  rw [run_onSides] at hmem
  obtain ⟨a, -, rfl⟩ := List.mem_map.1 hmem
  exact he a

theorem leads_ask (r : Request) (x : Act Effect ω α) (hr : E (.asked r)) (he : ∀ e, E (.effect e))
    (h : ∀ p s, P p → Q { p with sides := s }) : (ask r x).Leads P E Q := by
  intro p hp
  refine ⟨h p _ hp, ?_⟩
  intro e hmem
  rw [run_ask] at hmem
  rcases List.mem_cons.1 hmem with rfl | hmem
  · exact hr
  · obtain ⟨a, -, rfl⟩ := List.mem_map.1 hmem
    exact he a

theorem leads_become (next : SessionState) (he : ∀ r, E (.effect (.logged r)))
    (h : ∀ p, P p → Q { p with session := p.session.become next }) :
    (become next).Leads P E Q := by
  intro p hp
  refine ⟨h p hp, ?_⟩
  intro e hmem
  rcases List.mem_singleton.1 hmem with rfl
  exact he _

end Pump

end Telnet
