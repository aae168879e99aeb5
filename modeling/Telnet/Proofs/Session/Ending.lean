import Telnet.Proofs.Session.Turn

/-!
# How a session ends

What each request can fail with, a run can fail with. `Ending` says what there is to show of the
requests, and `Ending.ends_run` goes through the pump once. A session over sides that do what is
asked of them can fail in one way only: nothing can be displayed. Then it does fail, since no
session ends without showing something to the user (`ends_run`).
-/

namespace Telnet

/-- The sides do what a session asks of them and keep `P`, but for a display that may be broken. -/
structure Sides.Reliable {ω : Type} [Sides ω] (P : ω → Prop) (broken : Option Failure) : Prop where
  interrupt : (Sides.interrupt : Act Effect ω Unit).Ends P (fun _ => False) P
  readLine : (Sides.readLine : Act Effect ω Bytes).Ends P (fun _ => False) P
  setEcho : ∀ enabled, (Sides.setEcho enabled : Act Effect ω Unit).Ends P (fun _ => False) P
  read : ∀ limit, (Sides.read limit : Act Effect ω (Option Bytes)).Ends P (fun _ => False) P
  write : ∀ bytes, (Sides.write bytes : Act Effect ω Unit).Ends P (fun _ => False) P
  status : (Sides.status : Act Effect ω (Option Status)).Ends P (fun _ => False) P
  sleep : ∀ seconds, (Sides.sleep seconds : Act Effect ω Unit).Ends P (fun _ => False) P
  display : ∀ bytes, (Sides.display bytes : Act Effect ω Unit).Ends P (fun f => broken = some f)
    fun s => P s ∧ (bytes ≠ [] → broken = none)

namespace Pump

variable {ω : Type}

theorem ends_note (site : Log.Site) (message : Log.Message) {Q : Pump ω → Prop}
    {F : Failure → Prop} : (note site message).Ends Q F Q :=
  fun _ hp => hp

/-- The session is connected and its sides have `P`. -/
def Serves (P : ω → Prop) (p : Pump ω) : Prop := p.session.state = .active ∧ P p.sides

/-- If the session is over, then something could be displayed. -/
def Settled (P : ω → Prop) (broken : Option Failure) (p : Pump ω) : Prop :=
  P p.sides ∧ (p.session.state = .active ∨ broken = none)

/-- How a session ends if the display may be broken. -/
def brokenOutcome : Option Failure → Except Failure Unit
  | none => .ok ()
  | some f => .error f

abbrev Breaks (broken : Option Failure) (f : Failure) : Prop := broken = some f

section

variable {α : Type} {x : Act Effect ω α} {P Q : ω → Prop} {F : Failure → Prop}
  {P' Q' : Pump ω → Prop}

theorem ends_onSides (hx : x.Ends P F Q) (hP : ∀ p, P' p → P p.sides)
    (hQ : ∀ p s, P' p → Q s → Q' { p with sides := s }) : (onSides x).Ends P' F Q' := by
  intro p hp
  have hends := hx p.sides (hP p hp)
  rw [run_onSides]
  cases hout : (x.run p.sides).outcome with
  | ok a =>
    rw [hout] at hends
    exact hQ p _ hp hends
  | error f =>
    rw [hout] at hends
    exact hends

theorem ends_ask (r : Request) (hx : x.Ends P F Q) (hP : ∀ p, P' p → P p.sides)
    (hQ : ∀ p s, P' p → Q s → Q' { p with sides := s }) : (ask r x).Ends P' F Q' :=
  .bind .emit fun _ => ends_onSides hx hP hQ

end

variable [Sides ω]

/-- `P` holds while data may flow, `Q` holds at any time, and `R` once the session is over, before
which something is shown; every failure has `F`. -/
structure Ending (P Q R : Pump ω → Prop) (F : Failure → Prop) : Prop where
  held : ∀ p, P p → Q p
  live : ∀ p, Q p → p.session.isConnected = true → P p
  ended : ∀ p, Q p → p.session.isConnected ≠ true → R p
  polls : ∀ p rest, P p → P { p with polls := rest }
  engine : ∀ p e, P p → P { p with session := { p.session with engine := e } }
  interrupt : (ask .interrupt Sides.interrupt).Ends P F P
  readLine : (ask .readLine Sides.readLine).Ends P F P
  setEcho : ∀ enabled, (ask (.echo enabled) (Sides.setEcho enabled)).Ends P F P
  display : ∀ bytes, (display bytes).Ends P F P
  read : ∀ limit, (ask (.read limit) (Sides.read limit)).Ends P F P
  write : ∀ bytes, (write bytes).Ends P F P
  status : (ask .status Sides.status).Ends P F P
  sleep : (onSides (Sides.sleep idleInterval)).Ends P F P
  farewell : ∀ bytes, bytes ≠ [] →
    (do Pump.display bytes; become .closing : Act Event (Pump ω) Unit).Ends P F
      fun p => Q p ∧ R p

namespace Ending

variable {P Q R : Pump ω → Prop} {F : Failure → Prop}

theorem ends_checkAlive (h : Ending P Q R F) : checkAlive.Ends P F Q := by
  unfold checkAlive
  apply Act.Ends.bind h.status
  intro status
  cases status with
  | none => exact .weaken (.pure _) h.held
  | some s =>
    apply Act.Ends.ite
    · intro _
      apply Act.Ends.bind (ends_note _ _)
      intro _
      exact (h.farewell closedByHost (by decide)).weaken fun _ hp => hp.1
    · intro _
      exact .weaken (.pure _) h.held

theorem ends_perform (h : Ending P Q R F) (n : Note) : (perform n).Ends P F P := by
  cases n with
  | echo enabled => exact h.setEcho enabled
  | ignored | received | told => exact ends_note _ _

theorem ends_receive (h : Ending P Q R F) (chunk : Bytes) : (receive chunk).Ends P F P := by
  have hfeed : (feed chunk).Ends P F P := by
    unfold feed
    apply Act.Ends.read
    intro t _
    apply Act.Ends.bind (.update fun p hp => h.engine p _ hp)
    intro _
    apply Act.Ends.bind (.forM _ h.ends_perform)
    intro _
    exact .pure _
  rw [receive_eq]
  apply Act.Ends.bind hfeed
  intro fed
  unfold deliver
  apply Act.Ends.bind (h.display _)
  intro _
  apply Act.Ends.ite
  · intro _
    exact h.write _
  · intro _
    exact .pure _

theorem ends_transfer (h : Ending P Q R F) (ready : Option Side) :
    (transfer ready).Ends P F Q := by
  rcases ready with _ | _ | _
  · exact .bind h.sleep fun _ => h.ends_checkAlive
  · apply Act.Ends.bind h.readLine
    intro line
    apply Act.Ends.ite
    · intro _
      exact (h.write _).weaken h.held
    · intro _
      exact .weaken (.pure _) h.held
  · apply Act.Ends.read
    intro t _
    apply Act.Ends.bind (h.read _)
    intro chunk
    cases chunk with
    | none => exact .weaken (.pure _) h.held
    | some chunk =>
      apply Act.Ends.ite
      · intro _
        exact h.ends_checkAlive
      · intro _
        exact (h.ends_receive chunk).weaken h.held

theorem ends_turn (h : Ending P Q R F) {poll : Poll} (hpoll : ∀ f, poll.ready = .error f → F f) :
    (turn poll).Ends P F Q := by
  have hwait : (wait poll).Ends P F P := by
    unfold wait
    apply Act.Ends.bind .emit
    intro _
    apply Act.Ends.ite
    · intro _
      exact .bind h.interrupt fun _ => .ofExcept hpoll
    · intro _
      exact .ofExcept hpoll
  rw [turn_eq]
  exact .bind hwait h.ends_transfer

theorem ends_cancel (h : Ending P Q R F) : cancel.Ends P F R :=
  (h.farewell [Bytes.lineFeed] (by decide)).weaken fun _ hp => hp.2

theorem ends_unlessOver (h : Ending P Q R F) {next : Act Event (Pump ω) Unit}
    (hnext : next.Ends P F R) : (unlessOver next).Ends Q F R := by
  intro p hp
  rw [run_unlessOver]
  by_cases hconnected : p.session.isConnected = true
  · have hlive : P p := h.live p hp hconnected
    rw [if_pos hconnected]
    by_cases hcancelled : Sides.isCancelled p.sides = true
    · rw [if_pos hcancelled]
      exact h.ends_cancel p hlive
    · rw [if_neg hcancelled]
      exact hnext p hlive
  · rw [if_neg hconnected]
    exact h.ended p hp hconnected

/-- After the last poll a session that is still connected is ended. -/
theorem ends_last (h : Ending P Q R F) :
    (do if (← get).session.isConnected then cancel : Act Event (Pump ω) Unit).Ends Q F R := by
  apply Act.Ends.bind_get
  intro t ht
  apply Act.Ends.ite
  · intro hconnected
    have hlive : P t := h.live t ht hconnected
    exact h.ends_cancel.mono (fun p hp => hp ▸ hlive) (fun _ hf => hf) fun _ hp => hp
  · intro hconnected
    have hover : R t := h.ended t ht hconnected
    exact .weaken (.pure _) fun p hp => hp ▸ hover

theorem ends_turns (h : Ending P Q R F) (polls : List Poll)
    (hpolls : ∀ poll ∈ polls, ∀ f, poll.ready = .error f → F f) :
    (turns polls).Ends Q F R := by
  -- Every turn leaves the session connected or over.
  induction polls with
  | nil =>
    rw [turns]
    apply h.ends_unlessOver
    apply Act.Ends.bind (h.ends_turn fun f hf => by cases hf)
    intro _
    exact h.ends_last
  | cons poll rest ih =>
    have hstep : (modify fun p : Pump ω => { p with polls := rest } :
        Act Event (Pump ω) PUnit).Ends P F P := .update fun p hp => h.polls p rest hp
    have hturn := h.ends_turn (hpolls poll List.mem_cons_self)
    have hrest := ih fun poll hmem => hpolls poll (List.mem_cons_of_mem _ hmem)
    rw [turns]
    apply h.ends_unlessOver
    exact .bind hstep fun _ => .bind hturn fun _ => hrest

theorem ends_run (h : Ending P Q R F) {p : Pump ω} (hp : Q p)
    (hpolls : ∀ poll ∈ p.polls, ∀ f, poll.ready = .error f → F f) :
    (∃ a, (run.run p).outcome = .ok a ∧ R (run.run p).state) ∨
      ∃ f, (run.run p).outcome = .error f ∧ F f :=
  (h.ends_turns p.polls hpolls).ok_or_error hp

end Ending

/-! ### Reliable sides -/

variable {P : ω → Prop} {broken : Option Failure}

theorem ending_of_reliable (h : Sides.Reliable P broken) :
    Ending (Serves P) (Settled P broken) (fun _ => broken = none) (Breaks broken) := by
  have hask : ∀ {α : Type} {x : Act Effect ω α} (r : Request), x.Ends P (fun _ => False) P →
      (ask r x).Ends (Serves P) (Breaks broken) (Serves P) := by
    intro α x r hx
    have hends : (ask r x).Ends (Serves P) (fun _ => False) (Serves P) :=
      ends_ask r hx (fun _ hp => hp.2) fun _ _ hp hs => ⟨hp.1, hs⟩
    exact hends.mono (fun _ hp => hp) (fun _ hf => hf.elim) fun _ hp => hp
  have hdisplay : ∀ bytes, (display bytes).Ends (Serves P) (Breaks broken)
      (Serves fun s => P s ∧ (bytes ≠ [] → broken = none)) := fun bytes =>
    ends_ask _ (h.display bytes) (fun _ hp => hp.2) fun _ _ hp hs => ⟨hp.1, hs⟩
  have hsleep : (onSides (Sides.sleep idleInterval)).Ends (Serves P) (fun _ => False) (Serves P) :=
    ends_onSides (h.sleep _) (fun _ hp => hp.2) fun _ _ hp hs => ⟨hp.1, hs⟩
  constructor
  case held => exact fun p hp => ⟨hp.2, .inl hp.1⟩
  case live => exact fun p hp hconnected => ⟨of_decide_eq_true hconnected, hp.1⟩
  case ended =>
    rintro p ⟨-, hactive | hnone⟩ hover
    · exact absurd (decide_eq_true hactive) hover
    · exact hnone
  case polls => exact fun p rest hp => hp
  case engine => exact fun p e hp => hp
  case interrupt => exact hask _ h.interrupt
  case readLine => exact hask _ h.readLine
  case setEcho => exact fun enabled => hask _ (h.setEcho enabled)
  case display => exact fun bytes => (hdisplay bytes).weaken fun p hp => ⟨hp.1, hp.2.1⟩
  case read => exact fun limit => hask _ (h.read limit)
  case write => exact fun bytes => hask _ (h.write bytes)
  case status => exact hask _ h.status
  case sleep => exact hsleep.mono (fun _ hp => hp) (fun _ hf => hf.elim) fun _ hp => hp
  case farewell =>
    -- To end a session something is shown first.
    intro bytes hbytes
    apply Act.Ends.bind (hdisplay bytes)
    intro _ p hp
    have hnone : broken = none := hp.2.2 hbytes
    exact ⟨⟨hp.2.1, .inr hnone⟩, hnone⟩

/-- A session over reliable sides ends well if the display works, and fails if it does not. -/
theorem ends_run (h : Sides.Reliable P broken) {p : Pump ω} (hserves : Serves P p)
    (hpolls : ∀ poll ∈ p.polls, ∃ side, poll.ready = .ok side) :
    (run.run p).outcome = brokenOutcome broken := by
  have hready : ∀ poll ∈ p.polls, ∀ f, poll.ready = .error f → Breaks broken f := by
    intro poll hmem f hf
    obtain ⟨side, hside⟩ := hpolls poll hmem
    rw [hside] at hf
    cases hf
  have hsettled : Settled P broken p := ⟨hserves.2, .inl hserves.1⟩
  rcases (ending_of_reliable h).ends_run hsettled hready with ⟨_, hok, rfl⟩ | ⟨f, herror, rfl⟩
  · exact hok
  · exact herror

end Pump

end Telnet
