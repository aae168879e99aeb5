import Mathlib.Data.List.Chain
import Telnet.Proofs.Scope
import Telnet.Proofs.Session.Lifecycle

/-!
# The history of a session

A session goes from one state to the next as its state machine says (`SessionState.Next`), whatever
is called on its pump and whatever fails. There is one way off the machine: a pump that was left can
be entered again, and then a session that was ended is connected once more, even a closed one. The
history is a path of the machine exactly if that does not happen (`isPath_history_iff`).
-/

namespace Telnet

namespace SessionState

/-- The state machine of a session, which ends with `closed`. -/
inductive Next : SessionState → SessionState → Prop where
  | connected : Next .connecting .active
  | refused : Next .connecting .closed
  | ending : Next .active .closing
  | released : Next .closing .closed

/-- A session that was ended is connected once more. -/
inductive Again : SessionState → SessionState → Prop where
  | ending : Again .closing .active
  | over : Again .closed .active

/-- A start of one of the two ways through the state machine. -/
def IsPath (history : List SessionState) : Prop :=
  history <+: [.connecting, .active, .closing, .closed] ∨ history <+: [.connecting, .closed]

instance (history : List SessionState) : Decidable (IsPath history) :=
  inferInstanceAs (Decidable (_ ∨ _))

theorem IsPath.of_start {history later : List SessionState} (h : IsPath later)
    (hshorter : history <+: later) : IsPath history :=
  h.imp hshorter.trans hshorter.trans

/-- A path goes on exactly as the machine says. -/
theorem isPath_concat {history : List SessionState} {a b : SessionState} (h : IsPath history)
    (hlast : history.getLast? = some a) : IsPath (history ++ [b]) ↔ Next a b := by
  have hcases : history = [.connecting] ∨ history = [.connecting, .active] ∨
      history = [.connecting, .active, .closing] ∨
      history = [.connecting, .active, .closing, .closed] ∨ history = [.connecting, .closed] := by
    have hsome : history ≠ [] := by
      rintro rfl
      cases hlast
    rcases h with h | h <;>
      simp only [List.prefix_cons_iff, List.prefix_nil] at h <;> grind
  rcases hcases with rfl | rfl | rfl | rfl | rfl <;> cases hlast <;> cases b <;>
    first
    | exact ⟨fun _ => by constructor, fun _ => by decide⟩
    | exact ⟨fun h => absurd h (by decide), fun h => by cases h⟩

theorem isPath_append {history more : List SessionState} {a : SessionState} (h : IsPath history)
    (hlast : history.getLast? = some a) (hchain : (a :: more).IsChain Next) :
    IsPath (history ++ more) := by
  induction more generalizing history a with
  | nil => simpa using h
  | cons b more ih =>
    obtain ⟨hnext, hrest⟩ := List.isChain_cons_cons.1 hchain
    have hpath : IsPath (history ++ [b]) := (isPath_concat h hlast).2 hnext
    have happend := ih hpath (by simp) hrest
    rwa [List.append_assoc] at happend

end SessionState

/-! ### The ways of a session -/

namespace Session

/-- The session goes from one state to the next on ways with `R`, and each is recorded. -/
def Goes (R : SessionState → SessionState → Prop) (s t : Session) : Prop :=
  ∃ more, t.history = s.history ++ more ∧ (s.state :: more).IsChain R ∧
    t.state = more.getLastD s.state

variable {R : SessionState → SessionState → Prop} {s t u : Session}

theorem Goes.refl (s : Session) : Goes R s s := ⟨[], by simp, by simp, rfl⟩

theorem Goes.become {next : SessionState} (h : Goes R s t) (hnext : R t.state next) :
    Goes R s (t.become next) := by
  obtain ⟨more, hhistory, hchain, hstate⟩ := h
  refine ⟨more ++ [next], ?_, ?_, ?_⟩
  · show t.history ++ [next] = _
    rw [hhistory, List.append_assoc]
  · rw [← List.cons_append, List.isChain_append]
    refine ⟨hchain, by simp, ?_⟩
    intro a ha b hb
    obtain rfl : next = b := by simpa using hb
    rw [List.getLast?_cons, Option.mem_some_iff] at ha
    rw [← ha, ← List.getLastD_eq_getLast?, ← hstate]
    exact hnext
  · simp [Session.become]

def IsRecorded (s : Session) : Prop := s.history.getLast? = some s.state

theorem Goes.isRecorded (h : Goes R s t) (hs : s.IsRecorded) : t.IsRecorded := by
  obtain ⟨more, hhistory, -, hstate⟩ := h
  rw [IsRecorded, hhistory, hstate, List.getLast?_append, hs, List.getLastD_eq_getLast?]
  cases more.getLast? <;> rfl

end Session

/-- An event that is no request to open a connection. -/
def OpensNothing (e : Event) : Prop :=
  match e with
  | .asked (.openFor _) => False
  | _ => True

namespace Pump

variable {ω : Type} {s : Session}

def WentOn (s : Session) (p : Pump ω) : Prop := s.Goes SessionState.Next p.session

def WentActive (s : Session) (p : Pump ω) : Prop := WentOn s p ∧ p.session.state = .active

def WentIdle (s : Session) (p : Pump ω) : Prop := WentOn s p ∧ p.session.state ≠ .active

theorem leads_ask_idle {α : Type} {r : Request} (x : Act Effect ω α)
    (hr : OpensNothing (.asked r)) :
    (ask r x).Leads (WentIdle s) OpensNothing (WentIdle s) :=
  leads_ask r x hr (fun _ => trivial) fun _ _ hp => hp

theorem leads_ask_active {α : Type} {r : Request} (x : Act Effect ω α)
    (hr : OpensNothing (.asked r)) :
    (ask r x).Leads (WentActive s) OpensNothing (WentActive s) :=
  leads_ask r x hr (fun _ => trivial) fun _ _ hp => hp

variable [Sides ω]

theorem invariant_wentOn :
    Invariant (WentActive (ω := ω) s) (WentOn s) OpensNothing where
  held _ hp := hp.1
  live _ hp hconnected := ⟨hp, of_decide_eq_true hconnected⟩
  polls _ _ hp := hp
  engine _ _ hp := hp
  waited := trivial
  logged _ := trivial
  interrupt := leads_ask_active _ trivial
  readLine := leads_ask_active _ trivial
  setEcho _ := leads_ask_active _ trivial
  display _ := leads_ask_active _ trivial
  read _ := leads_ask_active _ trivial
  write _ := leads_ask_active _ trivial
  status := leads_ask_active _ trivial
  sleep := leads_onSides _ (fun _ => trivial) fun _ _ hp => hp
  closing := by
    refine leads_become .closing (fun _ => trivial) ?_
    rintro p ⟨hp, hactive⟩
    exact hp.become (hactive ▸ .ending)

/-- A run that finds the session ended does nothing, and any other one may end it. -/
theorem leads_run_wentOn : run.Leads (WentOn (ω := ω) s) OpensNothing (WentOn s) := by
  unfold run
  refine .bind_get fun t ht => ?_
  exact (invariant_wentOn.leads_turns t.polls).mono (fun _ hp => hp ▸ ht) fun _ hp => hp

theorem leads_release_wentOn :
    release.Leads (WentOn (ω := ω) s) OpensNothing (WentIdle s) := by
  have htraffic : endTraffic.Leads (WentOn (ω := ω) s) OpensNothing (WentIdle s) := by
    unfold endTraffic
    refine .bind_get fun t ht => .ite (fun hactive => ?_) fun hactive => ?_
    · refine leads_become .closing (fun _ => trivial) ?_
      rintro p rfl
      have hnext : SessionState.Next p.session.state .closing := hactive ▸ .ending
      exact ⟨Session.Goes.become ht hnext, by simp [Session.become]⟩
    · refine .weaken (.pure _) ?_
      rintro p rfl
      exact ⟨ht, hactive⟩
  have hhandle : dropHandle.Leads (WentIdle (ω := ω) s) OpensNothing (WentIdle s) := by
    unfold dropHandle
    refine .read fun t _ => .ite (fun _ => ?_) fun _ => .pure _
    exact .andThen (.update fun _ hp => hp) fun _ => leads_ask_idle _ trivial
  have hsession : endSession.Leads (WentIdle (ω := ω) s) OpensNothing (WentIdle s) := by
    unfold endSession
    refine .bind_get fun t ht => .ite (fun hclosed => ?_) fun _ => ?_
    · refine leads_become .closed (fun _ => trivial) ?_
      rintro p rfl
      have hnext : SessionState.Next p.session.state .closed := by
        cases hstate : p.session.state with
        | connecting => exact .refused
        | active => exact absurd hstate ht.2
        | closing => exact .released
        | closed => exact absurd hstate hclosed
      exact ⟨Session.Goes.become ht.1 hnext, by simp [Session.become]⟩
    · refine .weaken (.pure _) ?_
      rintro p rfl
      exact ht
  rw [release_eq]
  refine .bind htraffic (fun _ => ?_) fun _ hp => hp
  exact .andThen hhandle fun _ => hsession

/-! ### Calls on a pump -/

theorem connected_active {p : Pump ω} (h : (connect.run p).outcome = .ok ()) :
    (connect.run p).state.session.history = p.session.history ++ [.active] ∧
      (connect.run p).state.session.state = .active := by
  obtain ⟨hopened, hattempted⟩ := of_connect h
  obtain ⟨-, hstate, -⟩ := run_connect_ok p hopened hattempted
  rw [hstate]
  exact ⟨rfl, rfl⟩

theorem refused_wentIdle {p : Pump ω} {f : Failure} (h : (connect.run p).outcome = .error f)
    (hidle : p.session.state ≠ .active) : WentIdle p.session (connect.run p).state := by
  cases hopened : p.opened.outcome with
  | error g =>
    obtain ⟨-, hsession, -⟩ := run_connect_refused p hopened
    rw [WentIdle, WentOn, hsession]
    exact ⟨.refl _, hidle⟩
  | ok =>
    cases hattempted : p.attempted.outcome with
    | ok =>
      rw [(run_connect_ok p hopened hattempted).1] at h
      cases h
    | error g =>
      have hwent : WentOn p.session p.attempted.state := by
        rw [WentOn, p.attempted_eq.1]
        exact Session.Goes.refl p.session
      rw [run_connect_unconnected p hopened hattempted]
      exact (leads_release_wentOn p.attempted.state hwent).1

inductive Method where
  | enter
  | run
  | release
  /-- The scope is left, because of a failure if there is one. -/
  | leave (failure : Option Failure)

def invoke : Method → Act Event (Stage × Pump ω) Unit
  | .enter => scope.enter
  | .run => Scope.within run
  | .release => Scope.within release
  | .leave failure => discard (scope.leave failure)

def afterCalls (calls : List Method) (s : Stage × Pump ω) : Stage × Pump ω :=
  calls.foldl (fun s u => ((invoke u).run s).state) s

/-- To enter the scope now connects the pump. -/
def Connects (s : Stage × Pump ω) : Prop :=
  s.1 = .outside ∧ (connect.run s.2).outcome = .ok ()

/-- Data flows inside the scope only. -/
def Placed (s : Stage × Pump ω) : Prop := s.1 ≠ .inside → s.2.session.state ≠ .active

theorem run_enter_of_outside {s : Stage × Pump ω} (h : s.1 = .outside) :
    (invoke .enter).run s =
      ⟨(connect.run s.2).outcome,
        (match (connect.run s.2).outcome with | .ok () => .inside | .error _ => .broken,
          (connect.run s.2).state),
        (connect.run s.2).events⟩ := by
  obtain ⟨stage, p⟩ := s
  obtain rfl : stage = .outside := h
  refine (run_enter p).trans ?_
  cases (connect.run p).outcome <;> rfl

theorem run_enter_of_not_outside {s : Stage × Pump ω} (h : s.1 ≠ .outside) :
    (invoke .enter).run s = ⟨.error (.usage .alreadyEntered), s, []⟩ :=
  Scope.run_enter_of_not_outside h

theorem run_leave (failure : Option Failure) (s : Stage × Pump ω) :
    ((invoke (.leave failure)).run s).state = (.outside, (release.run s.2).state) ∧
      ((invoke (.leave failure)).run s).events = (release.run s.2).events := by
  rw [invoke, Act.discard_eq, Act.run_map, Scope.run_leave]
  cases hrelease : (release.run s.2).outcome <;> cases s.1 <;> cases failure <;>
    simp [Scope.releasing, Scope.closing, scope, Act.run_bind_eq, hrelease]

/-- A call takes the session on as the machine says, unless it enters the scope and connects: then
the session is active after it, whatever it was before. -/
theorem invoke_spec (u : Method) {s : Stage × Pump ω} (h : Placed s) :
    let t := ((invoke u).run s).state
    Placed t ∧
      (u = .enter ∧ Connects s ∧ t.2.session.history = s.2.session.history ++ [.active] ∧
          t.2.session.state = .active ∨
        ¬(u = .enter ∧ Connects s) ∧ WentOn s.2.session t.2) := by
  intro t
  have hrefl : WentOn s.2.session s.2 := Session.Goes.refl s.2.session
  have ht : t = ((invoke u).run s).state := rfl
  cases u with
  | enter =>
    by_cases houtside : s.1 = .outside
    · have hidle : s.2.session.state ≠ .active := h (by rw [houtside]; decide)
      rw [run_enter_of_outside houtside] at ht
      rw [Connects]
      cases hconnect : (connect.run s.2).outcome with
      | ok =>
        obtain ⟨hhistory, hactive⟩ := connected_active hconnect
        rw [hconnect] at ht
        rw [ht]
        exact ⟨fun hinside => absurd rfl hinside,
          .inl ⟨rfl, ⟨houtside, rfl⟩, hhistory, hactive⟩⟩
      | error f =>
        obtain ⟨hwent, hidle'⟩ := refused_wentIdle hconnect hidle
        rw [hconnect] at ht
        rw [ht]
        exact ⟨fun _ => hidle', .inr ⟨by simp, hwent⟩⟩
    · rw [run_enter_of_not_outside houtside] at ht
      rw [ht]
      exact ⟨h, .inr ⟨fun hconnects => houtside hconnects.2.1, hrefl⟩⟩
  | run =>
    have hwent := (leads_run_wentOn s.2 hrefl).1
    refine ⟨fun houtside => ?_, .inr ⟨by simp, hwent⟩⟩
    -- A run that finds no data flowing does nothing.
    have hidle : s.2.session.isConnected = false := decide_eq_false (h houtside)
    have hnothing : run.run s.2 = ⟨.ok (), s.2, []⟩ := by
      have hturns : run.run s.2 = (turns s.2.polls).run s.2 := rfl
      rw [hturns]
      cases s.2.polls <;> rw [turns, run_unlessOver, if_neg (by rw [hidle]; decide)]
    show (run.run s.2).state.session.state ≠ .active
    rw [hnothing]
    exact h houtside
  | release =>
    obtain ⟨hwent, hidle⟩ := (leads_release_wentOn s.2 hrefl).1
    exact ⟨fun _ => hidle, .inr ⟨by simp, hwent⟩⟩
  | leave failure =>
    obtain ⟨hwent, hidle⟩ := (leads_release_wentOn s.2 hrefl).1
    rw [(run_leave failure s).1] at ht
    rw [ht]
    exact ⟨fun _ => hidle, .inr ⟨by simp, hwent⟩⟩

/-- A connection is opened by entering the scope from outside, and by nothing else. -/
theorem opens_iff (u : Method) (s : Stage × Pump ω) :
    (∃ family, .openFor family ∈ requests ((invoke u).run s).events) ↔
      u = .enter ∧ s.1 = .outside := by
  have hnothing : ∀ events : List Event, (∀ e ∈ events, OpensNothing e) →
      ¬∃ family, .openFor family ∈ requests events := by
    rintro events hevents ⟨family, hmem⟩
    obtain ⟨e, he, heq⟩ := List.mem_filterMap.1 hmem
    cases e with
    | effect e => cases heq
    | asked r =>
      cases heq
      exact hevents _ he
  have hrefl : WentOn s.2.session s.2 := Session.Goes.refl s.2.session
  cases u with
  | enter =>
    by_cases houtside : s.1 = .outside
    · rw [run_enter_of_outside houtside]
      have hopens : .openFor s.2.session.address.family ∈ requests (connect.run s.2).events := by
        cases hopened : s.2.opened.outcome with
        | error f => simp [events_connect_refused s.2 hopened]
        | ok => simp [run_connect_opened s.2 hopened]
      exact ⟨fun _ => ⟨rfl, houtside⟩, fun _ => ⟨_, hopens⟩⟩
    · rw [run_enter_of_not_outside houtside]
      simp [houtside]
  | run =>
    have hevents := (leads_run_wentOn s.2 hrefl).2
    exact ⟨fun hopens => absurd hopens (hnothing _ hevents), fun h => by cases h.1⟩
  | release =>
    have hevents := (leads_release_wentOn s.2 hrefl).2
    exact ⟨fun hopens => absurd hopens (hnothing _ hevents), fun h => by cases h.1⟩
  | leave failure =>
    have hevents := (leads_release_wentOn s.2 hrefl).2
    rw [(run_leave failure s).2]
    exact ⟨fun hopens => absurd hopens (hnothing _ hevents), fun h => by cases h.1⟩

/-! ### Sequences of calls -/

/-- Each state in the history follows the one before it by the machine, or the session was connected
once more. -/
structure Recorded (s : Stage × Pump ω) : Prop where
  placed : Placed s
  recorded : s.2.session.IsRecorded
  chain : s.2.session.history.IsChain fun a b => SessionState.Next a b ∨ SessionState.Again a b

theorem Recorded.invoke (u : Method) {s : Stage × Pump ω} (h : Recorded s) :
    Recorded ((invoke u).run s).state := by
  obtain ⟨hplaced, hcases⟩ := invoke_spec u h.placed
  rcases hcases with ⟨-, hconnects, hhistory, hactive⟩ | ⟨-, hwent⟩
  · refine ⟨hplaced, ?_, ?_⟩
    · rw [Session.IsRecorded, hhistory, hactive]
      simp
    · have hidle := h.placed (by rw [hconnects.1]; decide)
      have hstep : SessionState.Next s.2.session.state .active ∨
          SessionState.Again s.2.session.state .active := by
        cases hstate : s.2.session.state with
        | connecting => exact .inl .connected
        | active => exact absurd hstate hidle
        | closing => exact .inr .ending
        | closed => exact .inr .over
      rw [hhistory, List.isChain_append]
      refine ⟨h.chain, by simp, ?_⟩
      intro a ha b hb
      rw [h.recorded, Option.mem_some_iff] at ha
      obtain rfl : .active = b := by simpa using hb
      rw [← ha]
      exact hstep
  · refine ⟨hplaced, hwent.isRecorded h.recorded, ?_⟩
    obtain ⟨more, hhistory, hchain, -⟩ := hwent
    have hmore := List.isChain_cons.1 hchain
    rw [hhistory, List.isChain_append]
    refine ⟨h.chain, hmore.2.imp fun _ _ => .inl, ?_⟩
    intro a ha b hb
    rw [h.recorded, Option.mem_some_iff] at ha
    rw [← ha]
    exact .inl (hmore.1 b hb)

theorem Recorded.afterCalls (calls : List Method) {s : Stage × Pump ω} (h : Recorded s) :
    Recorded (afterCalls calls s) := by
  induction calls generalizing s with
  | nil => exact h
  | cons u calls ih => exact ih (h.invoke u)

theorem history_prefix_invoke (u : Method) {s : Stage × Pump ω} (h : Placed s) :
    s.2.session.history <+: ((invoke u).run s).state.2.session.history := by
  rcases (invoke_spec u h).2 with ⟨-, -, hhistory, -⟩ | ⟨-, more, hhistory, -, -⟩
  · exact ⟨_, hhistory.symm⟩
  · exact ⟨more, hhistory.symm⟩

theorem history_prefix_afterCalls (calls : List Method) {s : Stage × Pump ω} (h : Recorded s) :
    s.2.session.history <+: (afterCalls calls s).2.session.history := by
  induction calls generalizing s with
  | nil => exact List.prefix_refl _
  | cons u calls ih => exact (history_prefix_invoke u h.placed).trans (ih (h.invoke u))

/-- A call stays on the machine unless it connects a session that is past connecting. -/
theorem isPath_invoke_iff (u : Method) {s : Stage × Pump ω} (h : Recorded s) :
    SessionState.IsPath ((invoke u).run s).state.2.session.history ↔
      SessionState.IsPath s.2.session.history ∧
        (u = .enter → Connects s → s.2.session.state = .connecting) := by
  rcases (invoke_spec u h.placed).2 with
    ⟨rfl, hconnects, hhistory, -⟩ | ⟨hnot, more, hhistory, hchain, -⟩
  · rw [hhistory]
    constructor
    · intro hnow
      have hbefore := hnow.of_start (List.prefix_append _ _)
      have hnext := (SessionState.isPath_concat hbefore h.recorded).1 hnow
      refine ⟨hbefore, fun _ _ => ?_⟩
      generalize s.2.session.state = state at hnext
      cases hnext
      rfl
    · rintro ⟨hpath, hfirst⟩
      refine (SessionState.isPath_concat hpath h.recorded).2 ?_
      rw [hfirst rfl hconnects]
      exact .connected
  · rw [hhistory]
    constructor
    · intro hnow
      have hbefore := hnow.of_start (List.prefix_append _ _)
      exact ⟨hbefore, fun hu hconnects => absurd ⟨hu, hconnects⟩ hnot⟩
    · rintro ⟨hpath, -⟩
      exact SessionState.isPath_append hpath h.recorded hchain

theorem isPath_afterCalls_iff (calls : List Method) {s : Stage × Pump ω} (h : Recorded s) :
    SessionState.IsPath (afterCalls calls s).2.session.history ↔
      SessionState.IsPath s.2.session.history ∧
        ∀ before later, calls = before ++ .enter :: later → Connects (afterCalls before s) →
          (afterCalls before s).2.session.state = .connecting := by
  induction calls generalizing s with
  | nil => simp [afterCalls]
  | cons u calls ih =>
    have hafter : ∀ before,
        afterCalls (u :: before) s = afterCalls before ((invoke u).run s).state := fun _ => rfl
    rw [hafter, ih (h.invoke u), isPath_invoke_iff u h, and_assoc, and_congr_right_iff]
    intro _
    constructor
    · rintro ⟨hfirst, hrest⟩ before later hcalls
      cases before with
      | nil =>
        injection hcalls with hu
        exact hfirst hu
      | cons v before =>
        injection hcalls with hu hcalls
        subst hu
        exact hrest before later hcalls
    · intro hall
      refine ⟨fun hu => hall [] calls (by rw [hu]; rfl), fun before later hcalls => ?_⟩
      exact hall (u :: before) later (by rw [hcalls]; rfl)

/-- Whatever is called on a pump, and whatever fails, its history only grows, and each state in it
follows the one before it by the machine or is `active` after the session was ended. It is a path of
the machine exactly if the scope is not entered with success for a session that is past connecting.
A connection is opened whenever the scope is entered from outside, also for a closed session. -/
theorem isPath_history_iff (logger : String) (limit : Limit) (term : TerminalType)
    (address : Address) (port : Int) (polls : List Poll) (sides : ω) (calls : List Method) :
    let after := fun calls : List Method =>
      afterCalls calls (Stage.outside, start logger limit term address port polls sides)
    (∀ before later, calls = before ++ later →
      (after before).2.session.history <+: (after calls).2.session.history) ∧
    ((after calls).2.session.history.IsChain fun a b =>
      SessionState.Next a b ∨ SessionState.Again a b) ∧
    (SessionState.IsPath (after calls).2.session.history ↔
      ∀ before later, calls = before ++ .enter :: later → Connects (after before) →
        (after before).2.session.state = .connecting) ∧
    (∀ before u later, calls = before ++ u :: later →
      ((∃ family, .openFor family ∈ requests ((invoke u).run (after before)).events) ↔
        u = .enter ∧ (after before).1 = .outside)) := by
  intro after
  have hstart : Recorded (Stage.outside, start logger limit term address port polls sides) := by
    refine ⟨fun _ => ?_, rfl, by simp [start, Session.start]⟩
    simp [start, Session.start]
  have hpath : SessionState.IsPath
      (start logger limit term address port polls sides).session.history := by
    show SessionState.IsPath [.connecting]
    decide
  refine ⟨?_, (hstart.afterCalls calls).chain, ?_, ?_⟩
  · rintro before later rfl
    have happend : after (before ++ later) = afterCalls later (after before) := by
      simp only [after, afterCalls, List.foldl_append]
    rw [happend]
    exact history_prefix_afterCalls later (hstart.afterCalls before)
  · exact (isPath_afterCalls_iff calls hstart).trans (and_iff_right hpath)
  · intro before u later _
    exact opens_iff u (after before)

/-- A pump that was left and is entered again opens a connection for a closed session. -/
theorem history_entered_again :
    let script : Script := ⟨[], none, [], 1500, [], [], none, false, false⟩
    let after := fun calls : List Method =>
      afterCalls calls (Stage.outside, start "log" .endless .standard (.v4 7) 23 [] script)
    let left := after [.enter, .leave none]
    let again := after [.enter, .leave none, .enter]
    left.2.session.state = .closed ∧
      Request.openFor .inet ∈ requests ((invoke .enter).run left).events ∧
      again.2.session.history = [.connecting, .active, .closing, .closed, .active] ∧
      ¬SessionState.IsPath again.2.session.history := by
  decide

end Pump

end Telnet
