import Telnet.Proofs.Session.Turn

/-!
# Invariants of a session

What each request keeps, a run keeps. `Invariant` says what there is to show of the requests, one by
one, and `Invariant.leads_run` goes through the pump once, for every invariant. `Sides.Keeps` is the
case of an invariant of the two sides alone; for it entering and leaving are covered as well
(`leads_conduct`).
-/

namespace Telnet

namespace Pump

variable {ω : Type} [Sides ω] {P Q : Pump ω → Prop} {E : Event → Prop}

/-- `P` holds while data may flow, `Q` holds at any time, and every event has `E`. -/
structure Invariant (P Q : Pump ω → Prop) (E : Event → Prop) : Prop where
  held : ∀ p, P p → Q p
  live : ∀ p, Q p → p.session.isConnected = true → P p
  polls : ∀ p rest, P p → P { p with polls := rest }
  engine : ∀ p e, P p → P { p with session := { p.session with engine := e } }
  waited : E (.effect (.poll pollInterval))
  logged : ∀ r, E (.effect (.logged r))
  interrupt : (ask .interrupt Sides.interrupt).Leads P E P
  readLine : (ask .readLine Sides.readLine).Leads P E P
  setEcho : ∀ enabled, (ask (.echo enabled) (Sides.setEcho enabled)).Leads P E P
  display : ∀ bytes, (display bytes).Leads P E P
  read : ∀ limit, (ask (.read limit) (Sides.read limit)).Leads P E P
  write : ∀ bytes, (write bytes).Leads P E P
  status : (ask .status Sides.status).Leads P E P
  sleep : (onSides (Sides.sleep idleInterval)).Leads P E P
  closing : (become .closing).Leads P E Q

namespace Invariant

theorem leads_checkAlive (h : Invariant P Q E) : checkAlive.Leads P E Q := by
  unfold checkAlive
  refine .before h.status (fun status => ?_) h.held
  cases status with
  | none => exact .weaken (.pure _) h.held
  | some s =>
    refine .ite (fun _ => ?_) fun _ => .weaken (.pure _) h.held
    refine .before (leads_note _ _ h.logged fun _ hp => hp) (fun _ => ?_) h.held
    exact .before (h.display _) (fun _ => h.closing) h.held

theorem leads_deliver (h : Invariant P Q E) (fed : Fed) : (deliver fed).Leads P E P := by
  unfold deliver
  refine .andThen (h.display _) fun _ => ?_
  exact .ite (fun _ => h.write _) fun _ => .pure _

theorem leads_receive (h : Invariant P Q E) (chunk : Bytes) : (receive chunk).Leads P E P := by
  rw [receive_eq]
  have hfeed : (feed chunk).Leads P E P := leads_feed h.logged h.setEcho chunk fun p => h.engine p _
  exact .andThen hfeed h.leads_deliver

theorem leads_wait (h : Invariant P Q E) (poll : Poll) : (wait poll).Leads P E P := by
  unfold wait
  refine .andThen (.emit h.waited) fun _ => ?_
  refine .ite (fun _ => ?_) fun _ => .ofExcept
  exact .andThen h.interrupt fun _ => .ofExcept

theorem leads_transferLine (h : Invariant P Q E) : transferLine.Leads P E P := by
  unfold transferLine
  refine .andThen h.readLine fun line => ?_
  exact .ite (fun _ => h.write _) fun _ => .pure _

theorem leads_transferChunk (h : Invariant P Q E) : transferChunk.Leads P E Q := by
  unfold transferChunk
  refine .read fun t _ => ?_
  refine .before (h.read _) (fun chunk => ?_) h.held
  cases chunk with
  | none => exact .weaken (.pure _) h.held
  | some chunk =>
    refine .ite (fun _ => h.leads_checkAlive) fun _ => ?_
    exact (h.leads_receive chunk).weaken h.held

theorem leads_transfer (h : Invariant P Q E) (ready : Option Side) :
    (transfer ready).Leads P E Q := by
  rcases ready with _ | _ | _
  · exact .before h.sleep (fun _ => h.leads_checkAlive) h.held
  · exact h.leads_transferLine.weaken h.held
  · exact h.leads_transferChunk

theorem leads_turn (h : Invariant P Q E) (poll : Poll) : (turn poll).Leads P E Q := by
  rw [turn_eq]
  exact .before (h.leads_wait poll) h.leads_transfer h.held

theorem leads_cancel (h : Invariant P Q E) : cancel.Leads P E Q := by
  unfold cancel
  exact .before (h.display _) (fun _ => h.closing) h.held

/-- What goes on only while the session is connected may assume that data may flow. -/
theorem leads_unlessOver (h : Invariant P Q E) {next : Act Event (Pump ω) Unit}
    (hnext : next.Leads P E Q) : (unlessOver next).Leads Q E Q := by
  intro p hp
  rw [run_unlessOver]
  by_cases hconnected : p.session.isConnected = true
  · have hlive : P p := h.live p hp hconnected
    rw [if_pos hconnected]
    split
    · exact h.leads_cancel p hlive
    · exact hnext p hlive
  · rw [if_neg hconnected]
    exact ⟨hp, by simp⟩

theorem leads_turns (h : Invariant P Q E) (polls : List Poll) : (turns polls).Leads Q E Q := by
  -- A turn starts while data may flow, and may leave the session over.
  induction polls with
  | nil =>
    rw [turns]
    refine h.leads_unlessOver (.bind (h.leads_turn _) (fun _ => ?_) fun _ hs => hs)
    refine .bind_get fun t ht => ?_
    refine .ite (fun hconnected => ?_) fun _ => .weaken (.pure _) fun s hs => hs ▸ ht
    exact h.leads_cancel.mono (fun s hs => hs ▸ h.live t ht hconnected) fun _ hs => hs
  | cons poll rest ih =>
    rw [turns]
    refine h.leads_unlessOver ?_
    refine .before (.update fun p hp => h.polls p rest hp) (fun _ => ?_) h.held
    exact .bind (h.leads_turn poll) (fun _ => ih) fun _ hs => hs

theorem leads_run (h : Invariant P Q E) : run.Leads P E Q := by
  unfold run
  refine .bind_get fun t ht => ?_
  exact (h.leads_turns t.polls).mono (fun s hs => hs ▸ h.held t ht) fun _ hs => hs

end Invariant

end Pump

/-! ### Invariants of the sides -/

/-- If the event is an effect, that effect has `F`. -/
def Event.Only (F : Effect → Prop) (e : Event) : Prop := ∀ f, e.effect? = some f → F f

/-- What a connected session asks of its sides keeps `P` and has no effects but those with `F`. -/
structure Sides.Keeps {ω : Type} [Sides ω] (P : ω → Prop) (F : Effect → Prop) : Prop where
  waited : F (.poll pollInterval)
  logged : ∀ r, F (.logged r)
  interrupt : (Sides.interrupt : Act Effect ω Unit).Leads P F P
  readLine : (Sides.readLine : Act Effect ω Bytes).Leads P F P
  setEcho : ∀ enabled, (Sides.setEcho enabled : Act Effect ω Unit).Leads P F P
  display : ∀ bytes, (Sides.display bytes : Act Effect ω Unit).Leads P F P
  read : ∀ limit, (Sides.read limit : Act Effect ω (Option Bytes)).Leads P F P
  write : ∀ bytes, (Sides.write bytes : Act Effect ω Unit).Leads P F P
  status : (Sides.status : Act Effect ω (Option Status)).Leads P F P
  sleep : ∀ seconds, (Sides.sleep seconds : Act Effect ω Unit).Leads P F P

theorem Sides.Keeps.allow {ω : Type} [Sides ω] {P : ω → Prop} {F F' : Effect → Prop}
    (h : Sides.Keeps P F) (hF : ∀ e, F e → F' e) : Sides.Keeps P F' where
  waited := hF _ h.waited
  logged r := hF _ (h.logged r)
  interrupt := h.interrupt.allow hF
  readLine := h.readLine.allow hF
  setEcho enabled := (h.setEcho enabled).allow hF
  display bytes := (h.display bytes).allow hF
  read limit := (h.read limit).allow hF
  write bytes := (h.write bytes).allow hF
  status := h.status.allow hF
  sleep seconds := (h.sleep seconds).allow hF

namespace Pump

variable {ω : Type} {P : ω → Prop} {F : Effect → Prop}

def SidesHold (P : ω → Prop) (p : Pump ω) : Prop := P p.sides

theorem leads_onSides_of {α : Type} {x : Act Effect ω α} (hx : x.Leads P F P) :
    (onSides x).Leads (SidesHold P) (Event.Only F) (SidesHold P) := by
  intro p hp
  obtain ⟨hstate, hevents⟩ := hx p.sides hp
  refine ⟨hstate, ?_⟩
  intro event hmem f hf
  obtain ⟨e, he, rfl⟩ := List.mem_map.1 hmem
  exact Option.some.inj hf ▸ hevents e he

theorem leads_ask_sides {α : Type} {x : Act Effect ω α} (hx : x.Leads P F P) (r : Request) :
    (ask r x).Leads (SidesHold P) (Event.Only F) (SidesHold P) := by
  unfold ask
  have hasked : Event.Only F (.asked r) := fun f hf => by cases hf
  exact .andThen (.emit hasked) fun _ => leads_onSides_of hx

theorem only_logged (hlog : ∀ r, F (.logged r)) (r : Log.Record) :
    Event.Only F (.effect (.logged r)) := by
  intro f hf
  cases hf
  exact hlog r

theorem leads_become_sides (hlog : ∀ r, F (.logged r)) (next : SessionState) :
    (become next).Leads (SidesHold P) (Event.Only F) (SidesHold P) :=
  leads_become next (only_logged hlog) fun _ hp => hp

def ScopeHolds (P : ω → Prop) (s : Stage × Pump ω) : Prop := P s.2.sides

theorem leads_within {α : Type} {x : Act Event (Pump ω) α}
    (hx : x.Leads (SidesHold P) (Event.Only F) (SidesHold P)) :
    (Scope.within x).Leads (ScopeHolds P) (Event.Only F) (ScopeHolds P) :=
  .on hx (fun _ hs => hs) fun _ _ _ hs => hs

theorem leads_move (stage : Stage) :
    (Scope.move stage : Act Event (Stage × Pump ω) Unit).Leads (ScopeHolds P) (Event.Only F)
      (ScopeHolds P) :=
  .update fun _ hs => hs

variable [Sides ω]

theorem invariant_of_sides (h : Sides.Keeps P F) :
    Invariant (SidesHold P) (SidesHold P) (Event.Only F) where
  held _ hp := hp
  live _ hp _ := hp
  polls _ _ hp := hp
  engine _ _ hp := hp
  waited f hf := by
    cases hf
    exact h.waited
  logged := only_logged h.logged
  interrupt := leads_ask_sides h.interrupt _
  readLine := leads_ask_sides h.readLine _
  setEcho enabled := leads_ask_sides (h.setEcho enabled) _
  display bytes := leads_ask_sides (h.display bytes) _
  read limit := leads_ask_sides (h.read limit) _
  write bytes := leads_ask_sides (h.write bytes) _
  status := leads_ask_sides h.status _
  sleep := leads_onSides_of (h.sleep _)
  closing := leads_become_sides h.logged .closing

/-! ### Entering and leaving -/

def endTraffic : Act Event (Pump ω) Unit := do
  if (← get).session.state = .active then become .closing

def dropHandle : Act Event (Pump ω) Unit := do
  if (← get).session.hasHandle then
    setHandle false
    ask .close Sides.close

def endSession : Act Event (Pump ω) Unit := do
  if (← get).session.state ≠ .closed then become .closed

theorem release_eq : (release : Act Event (Pump ω) Unit) = (do
    endTraffic
    dropHandle
    endSession) := by
  simp only [release, endTraffic, dropHandle, endSession, bind_assoc, Act.ite_pure_bind]

theorem leads_release (hlog : ∀ r, F (.logged r))
    (hclose : (Sides.close : Act Effect ω Unit).Leads P F P) :
    release.Leads (SidesHold P) (Event.Only F) (SidesHold P) := by
  have htraffic : endTraffic.Leads (SidesHold P) (Event.Only F) (SidesHold P) := by
    unfold endTraffic
    exact .read fun t _ => .ite (fun _ => leads_become_sides hlog _) fun _ => .pure _
  have hhandle : dropHandle.Leads (SidesHold P) (Event.Only F) (SidesHold P) := by
    unfold dropHandle
    refine .read fun t _ => .ite (fun _ => ?_) fun _ => .pure _
    refine .andThen (.update fun _ hs => hs) fun _ => ?_
    exact leads_ask_sides hclose _
  have hsession : endSession.Leads (SidesHold P) (Event.Only F) (SidesHold P) := by
    unfold endSession
    exact .read fun t _ => .ite (fun _ => leads_become_sides hlog _) fun _ => .pure _
  rw [release_eq]
  refine .andThen htraffic fun _ => ?_
  exact .andThen hhandle fun _ => hsession

theorem leads_connect (hlog : ∀ r, F (.logged r))
    (hopen : ∀ family, (Sides.openFor family : Act Effect ω Unit).Leads P F P)
    (hconnect : ∀ address port, (Sides.connect address port : Act Effect ω Unit).Leads P F P)
    (hclose : (Sides.close : Act Effect ω Unit).Leads P F P) :
    connect.Leads (SidesHold P) (Event.Only F) (SidesHold P) := by
  have hrelease : release.Leads (SidesHold P) (Event.Only F) (SidesHold P) :=
    leads_release hlog hclose
  unfold connect
  refine .read fun t _ => ?_
  refine .andThen (leads_ask_sides (hopen _) _) fun _ => ?_
  refine .andThen (.update fun _ hs => hs) fun _ => ?_
  refine .andThen (.attempt ?_) fun outcome => ?_
  · exact .andThen .ofExcept fun _ => leads_ask_sides (hconnect _ _) _
  · cases outcome with
    | ok =>
      refine .andThen (leads_note _ _ (only_logged hlog) fun _ hs => hs) fun _ => ?_
      exact leads_become_sides hlog _
    | error f => exact .andThen hrelease fun _ => .throw _

theorem leads_enter
    (hconnect : connect.Leads (SidesHold P) (Event.Only F) (SidesHold (ω := ω) P)) :
    (scope (ω := ω)).enter.Leads (ScopeHolds P) (Event.Only F) (ScopeHolds P) := by
  unfold Scope.enter
  refine .read fun t _ => .ite (fun _ => ?_) fun _ => .throw _
  refine .andThen (leads_move _) fun _ => ?_
  refine .andThen (leads_within hconnect) fun _ => ?_
  exact .andThen (leads_move _) fun _ => .pure _

theorem leads_leave (failure : Option Failure)
    (hrelease : release.Leads (SidesHold P) (Event.Only F) (SidesHold (ω := ω) P)) :
    ((scope (ω := ω)).leave failure).Leads (ScopeHolds P) (Event.Only F) (ScopeHolds P) := by
  unfold Scope.leave
  refine .read fun t _ => .andThen (leads_move _) fun _ => ?_
  refine .andThen (leads_within hrelease) fun _ => ?_
  cases t.1 with
  | outside => exact .throw _
  | inside => exact leads_within (.pure _)
  | broken =>
    cases failure with
    | none => exact .pure _
    | some f => exact .throw _

/-- What everything that a session asks of its sides keeps is kept from entering to leaving. -/
theorem leads_conduct (h : Sides.Keeps P F)
    (hopen : ∀ family, (Sides.openFor family : Act Effect ω Unit).Leads P F P)
    (hconnect : ∀ address port, (Sides.connect address port : Act Effect ω Unit).Leads P F P)
    (hclose : (Sides.close : Act Effect ω Unit).Leads P F P) :
    conduct.Leads (ScopeHolds P) (Event.Only F) (ScopeHolds P) := by
  have henter := leads_enter (leads_connect h.logged hopen hconnect hclose)
  have hrun := leads_within (invariant_of_sides h).leads_run
  have hleave := fun failure => leads_leave failure (leads_release h.logged hclose)
  unfold conduct
  refine .andThen henter fun _ => ?_
  refine .andThen (.attempt hrun) fun outcome => ?_
  cases outcome with
  | ok => exact .discard (hleave none)
  | error f =>
    refine .andThen (hleave (some f)) fun isOver => ?_
    exact .ite (fun _ => .throw _) fun _ => .pure _

end Pump

end Telnet
