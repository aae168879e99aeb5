import Telnet.Proofs.Console.Reading
import Telnet.Proofs.Session.Invariant
import Telnet.Proofs.Session.Reliable
import Telnet.Proofs.Session.Serving
import Telnet.Proofs.Session.Transfer
import Telnet.Session.Scripted

/-!
# How a session is cancelled

The user ends a session by raising a flag, which stays up. At whatever moment of an iteration it
rises, the iteration finishes its transfer and is the last one (`pairwise_iterations`). Then the run
ends with a line end on the console, unless that iteration also found that the remote host closed
the connection (`run_cancelled`).
-/

namespace Telnet

open Pump

/-! ### The flag -/

/-- Once the user has ended the session it stays ended, and an interrupt ends it. -/
structure Sides.StaysCancelled (ω : Type) [Sides ω] : Prop where
  keeps : Sides.Keeps (fun s : ω => Sides.isCancelled s = true) fun _ => True
  interrupt : ∀ s : ω,
    Sides.isCancelled ((Sides.interrupt : Act Effect ω Unit).run s).state = true

namespace Surroundings

def Cancelled (s : Surroundings) : Prop := Sides.isCancelled s = true

theorem keeps_cancelled_console {α : Type} {x : Act Effect Console α}
    (h : ∀ c : Console, c.isCancelled = true → (x.run c).state.isCancelled = true) :
    (onConsole x).Leads Cancelled (fun _ => True) Cancelled :=
  fun s hs => ⟨h s.console hs, fun _ _ => trivial⟩

/-- The flag is a part of the console, which the connection does not touch. -/
theorem keeps_cancelled_link {α : Type} (x : Act Effect Link α) :
    (onLink x).Leads Cancelled (fun _ => True) Cancelled :=
  fun _ hs => ⟨hs, fun _ _ => trivial⟩

theorem keeps_cancelled_setEcho (enabled : Bool) (c : Console) (h : c.isCancelled = true) :
    ((Console.setEcho enabled).run c).state.isCancelled = true := by
  obtain ⟨mode, hstate⟩ := Console.state_setEcho enabled c
  rw [hstate]
  exact h

theorem staysCancelled : Sides.StaysCancelled Surroundings where
  keeps :=
    { waited := trivial
      logged := fun _ => trivial
      interrupt := .update fun s _ => by simp [Sides.isCancelled, Console.interrupt,
        Console.isCancelled]
      readLine := keeps_cancelled_console fun c hc => by rw [(Console.readLine_spec c).2, hc]; rfl
      setEcho := fun enabled => keeps_cancelled_console (keeps_cancelled_setEcho enabled)
      display := fun bytes => keeps_cancelled_console fun c hc => by
        rw [Console.state_display]
        exact hc
      read := fun _ => keeps_cancelled_link _
      write := fun _ => keeps_cancelled_link _
      status := keeps_cancelled_link _
      sleep := fun _ => .emit trivial }
  interrupt s := by simp [Sides.isCancelled, Sides.interrupt, Console.interrupt,
    Console.isCancelled]

end Surroundings

/-! ### Cancelled iterations -/

variable {ω : Type} [Sides ω]

namespace Iteration

variable {i : Iteration ω}

/-- A moment of an iteration at which the user has ended the session. -/
inductive Cancelled (i : Iteration ω) : Prop where
  | polling (h : Sides.isCancelled i.polled.state.sides = true)
  | reading (hready : i.polled.outcome = .ok (some .console))
      (h : Sides.isCancelled i.lineRead.state = true)
  | receiving (hready : i.polled.outcome = .ok (some .remote))
      (h : Sides.isCancelled i.chunkRead.state = true)
  | sleeping (hready : i.polled.outcome = .ok none) (h : Sides.isCancelled i.slept = true)
  | transferring (h : Sides.isCancelled i.ran.state.sides = true)

theorem cancelled_of_interrupts (hstays : Sides.StaysCancelled ω)
    (h : i.poll.interrupts = true) : i.Cancelled := by
  apply Cancelled.polling
  rw [polled, state_wait, if_pos h]
  exact hstays.interrupt i.before.sides

theorem cancelled_of_endsSession {i : Iteration Surroundings}
    (hready : i.polled.outcome = .ok (some .console))
    (hends : Console.endsSession (Bytes.nextLine i.polled.state.sides.console.input).1 = true) :
    i.line? = some [] ∧ i.Cancelled := by
  obtain ⟨houtcome, hflag⟩ := Console.readLine_spec i.polled.state.sides.console
  rw [hends] at houtcome hflag
  have hread : i.lineRead.outcome = .ok [] := houtcome
  refine ⟨?_, .reading hready (hflag.trans (Bool.or_true _))⟩
  rw [line?, hready, hread]
  rfl

/-- The flag stays up until the iteration is over. -/
theorem isCancelled_of_cancelled (hstays : Sides.StaysCancelled ω) (h : i.Cancelled) :
    Sides.isCancelled i.ran.state.sides = true := by
  have hkeeps := invariant_of_sides hstays.keeps
  cases h with
  | polling h =>
    rw [ran_eq]
    cases i.polled.outcome with
    | error f => exact h
    | ok ready => exact (hkeeps.leads_transfer ready i.polled.state h).1
  | reading hready h =>
    have hwrite : ∀ line : Bytes, (if !line.isEmpty then write line.networkEnds else pure () :
        Act Event (Pump ω) Unit).Leads (SidesHold _) _ (SidesHold _) := fun line =>
      .ite (fun _ => hkeeps.write line.networkEnds) fun _ => .pure _
    rw [ran_eq, hready]
    exact Act.Leads.state_bind (x := ask .readLine Sides.readLine) h hwrite
  | receiving hready h =>
    have hafter : SidesHold (fun s => Sides.isCancelled s = true) i.afterRead := h
    rw [ran_eq, hready]
    simp only [transfer, run_transferChunk]
    rw [follows]
    split
    · exact hafter
    · split
      · exact (hkeeps.leads_checkAlive i.afterRead hafter).1
      · exact (hkeeps.leads_receive _ i.afterRead hafter).1
    · exact hafter
  | sleeping hready h =>
    rw [ran_eq, hready]
    exact Act.Leads.state_bind (x := onSides (Sides.sleep idleInterval)) h
      fun _ => hkeeps.leads_checkAlive
  | transferring h => exact h

end Iteration

namespace Pump

/-! ### The iterations of a run -/

variable {p : Pump ω}

theorem goesOn_of_cancelled (h : Sides.isCancelled p.sides = true) : p.goesOn = false := by
  rw [goesOn, h]
  exact Bool.and_false _

theorem iterations_of_cancelled (polls : List Poll) (h : Sides.isCancelled p.sides = true) :
    iterations polls p = [] :=
  (loop_of_not_goesOn polls (goesOn_of_cancelled h)).2

theorem iterations_cons (poll : Poll) (rest : List Poll) (h : p.goesOn = true) :
    let i : Iteration ω := ⟨poll, { p with polls := rest }⟩
    (∃ f, i.ran.outcome = .error f) ∧ iterations (poll :: rest) p = [i] ∨
      i.ran.outcome = .ok () ∧ iterations (poll :: rest) p = i :: iterations rest i.ran.state := by
  intro i
  rw [iterations, if_pos h]
  cases hran : i.ran.outcome with
  | error f => exact .inl ⟨⟨f, rfl⟩, by simp only [i, hran]⟩
  | ok => exact .inr ⟨rfl, by simp only [i, hran]⟩

/-- No iteration follows one in which the user has ended the session. -/
theorem pairwise_iterations (hstays : Sides.StaysCancelled ω) (polls : List Poll) (p : Pump ω) :
    (iterations polls p).Pairwise fun i _ => ¬i.Cancelled := by
  induction polls generalizing p with
  | nil =>
    rw [iterations]
    split <;> simp
  | cons poll rest ih =>
    cases hgoes : p.goesOn with
    | false =>
      rw [(loop_of_not_goesOn (poll :: rest) hgoes).2]
      exact List.Pairwise.nil
    | true =>
      rcases iterations_cons poll rest hgoes with ⟨-, heq⟩ | ⟨-, heq⟩
      · rw [heq]
        exact List.pairwise_singleton _ _
      · rw [heq, List.pairwise_cons]
        refine ⟨fun j hj hcancelled => ?_, ih _⟩
        have hflag := Iteration.isCancelled_of_cancelled hstays hcancelled
        rw [iterations_of_cancelled rest hflag] at hj
        cases hj

/-- If every poll after those of a script interrupts, at most one of them is made. -/
theorem length_iterations_le (hstays : Sides.StaysCancelled ω) (script more : List Poll)
    (hmore : ∀ poll ∈ more, poll.interrupts = true) (p : Pump ω) :
    (iterations (script ++ more) p).length ≤ script.length + 1 := by
  induction script generalizing p with
  | nil =>
    cases more with
    | nil =>
      rw [List.nil_append, iterations]
      split <;> simp
    | cons poll more =>
      cases hgoes : p.goesOn with
      | false =>
        rw [List.nil_append, (loop_of_not_goesOn (poll :: more) hgoes).2]
        simp
      | true =>
        rcases iterations_cons poll more hgoes with ⟨-, heq⟩ | ⟨-, heq⟩
        · rw [List.nil_append, heq]
          simp
        · have hinterrupts := hmore poll List.mem_cons_self
          have hcancelled : Iteration.Cancelled ⟨poll, { p with polls := more }⟩ :=
            Iteration.cancelled_of_interrupts hstays hinterrupts
          have hflag := Iteration.isCancelled_of_cancelled hstays hcancelled
          rw [List.nil_append, heq, iterations_of_cancelled more hflag]
          simp
  | cons poll script ih =>
    cases hgoes : p.goesOn with
    | false =>
      rw [(loop_of_not_goesOn (poll :: script ++ more) hgoes).2]
      simp
    | true =>
      rcases iterations_cons poll (script ++ more) hgoes with ⟨-, heq⟩ | ⟨-, heq⟩
      · rw [List.cons_append, heq]
        simp
      · have hrest := ih (Iteration.ran ⟨poll, { p with polls := script ++ more }⟩).state
        rw [List.cons_append, heq, List.length_cons, List.length_cons]
        omega

/-- The loop ends because the session is over or because the user has ended it. -/
theorem goesOn_loop (hstays : Sides.StaysCancelled ω) (polls : List Poll) (p : Pump ω)
    (hok : ((loop polls).run p).outcome = .ok ()) : ((loop polls).run p).state.goesOn = false := by
  induction polls generalizing p with
  | nil =>
    cases hgoes : p.goesOn with
    | false =>
      rw [(loop_of_not_goesOn [] hgoes).1]
      exact hgoes
    | true =>
      have hcancelled : Iteration.Cancelled ⟨.interrupting, p⟩ :=
        Iteration.cancelled_of_interrupts hstays rfl
      rw [run_loop_nil hgoes]
      exact goesOn_of_cancelled (Iteration.isCancelled_of_cancelled hstays hcancelled)
  | cons poll rest ih =>
    cases hgoes : p.goesOn with
    | false =>
      rw [(loop_of_not_goesOn (poll :: rest) hgoes).1]
      exact hgoes
    | true =>
      rw [run_loop_cons poll rest hgoes] at hok ⊢
      cases hran : (Iteration.ran ⟨poll, { p with polls := rest }⟩).outcome with
      | error f =>
        rw [hran] at hok
        cases hok
      | ok =>
        rw [hran] at hok
        exact ih _ hok

/-- A loop that ends well leaves the session connected, or its last iteration found that the remote
host closed the connection. -/
theorem loop_spec (polls : List Poll) (hactive : p.session.state = .active)
    (hok : ((loop polls).run p).outcome = .ok ()) :
    (∀ i ∈ iterations polls p, i.ran.outcome = .ok () ∧ i.before.session.state = .active) ∧
      ∃ engine closed,
        ((loop polls).run p).state.session = { p.session with engine }.after closed ∧
        (closed = false → ∀ i ∈ iterations polls p, i.ran.state.session.state = .active) ∧
        (closed = true → ∃ front i, iterations polls p = front ++ [i] ∧
          i.ran.state.session.state = .closing) := by
  induction polls generalizing p with
  | nil =>
    cases hgoes : p.goesOn with
    | false =>
      obtain ⟨hrun, hnone⟩ := loop_of_not_goesOn [] hgoes
      rw [hrun, hnone]
      exact ⟨by simp, p.session.engine, false, rfl, by simp, by simp⟩
    | true =>
      rw [run_loop_nil hgoes] at hok ⊢
      rw [iterations, if_pos hgoes]
      obtain ⟨asked, closed, engine, -, -, hsession⟩ := Iteration.exists_transfers hok
      have hstate := congrArg Session.state hsession
      refine ⟨by simpa using ⟨hok, hactive⟩, engine, closed, hsession, ?_, ?_⟩
      · rintro rfl
        simpa using hstate.trans hactive
      · rintro rfl
        exact ⟨[], _, rfl, hstate⟩
  | cons poll rest ih =>
    cases hgoes : p.goesOn with
    | false =>
      obtain ⟨hrun, hnone⟩ := loop_of_not_goesOn (poll :: rest) hgoes
      rw [hrun, hnone]
      exact ⟨by simp, p.session.engine, false, rfl, by simp, by simp⟩
    | true =>
      let i : Iteration ω := ⟨poll, { p with polls := rest }⟩
      rw [run_loop_cons poll rest hgoes] at hok ⊢
      rcases iterations_cons poll rest hgoes with ⟨⟨f, hran⟩, heq⟩ | ⟨hran, heq⟩
      · rw [hran] at hok
        cases hok
      · rw [hran] at hok ⊢
        simp only at hok ⊢
        rw [heq]
        obtain ⟨asked, closed, engine, -, -, hsession⟩ := Iteration.exists_transfers hran
        have hstate := congrArg Session.state hsession
        cases closed with
        | true =>
          -- The session is over, so this iteration was the last one.
          have hclosing : i.ran.state.session.state = .closing := hstate
          have hover : i.ran.state.goesOn = false := by
            rw [goesOn, Session.isConnected, hclosing]
            rfl
          obtain ⟨hrun, hnone⟩ := loop_of_not_goesOn rest hover
          rw [hrun, hnone]
          refine ⟨?_, engine, true, hsession, by simp, fun _ => ⟨[], i, rfl, hclosing⟩⟩
          simpa using ⟨hran, hactive⟩
        | false =>
          have hstill : i.ran.state.session.state = .active := hstate.trans hactive
          obtain ⟨hall, engine', closed, hend, hopen, hclosed⟩ := ih hstill hok
          have hrest : i.ran.state.session = { p.session with engine } := hsession
          refine ⟨?_, engine', closed, ?_, fun h => ?_, fun h => ?_⟩
          · intro j hj
            rcases List.mem_cons.1 hj with rfl | hj
            · exact ⟨hran, hactive⟩
            · exact hall j hj
          · rw [hend, hrest]
          · intro j hj
            rcases List.mem_cons.1 hj with rfl | hj
            · exact hstill
            · exact hopen h j hj
          · obtain ⟨front, j, hfront, hj⟩ := hclosed h
            exact ⟨i :: front, j, by rw [hfront]; rfl, hj⟩

/-! ### The run -/

theorem run_eq_turns (p : Pump ω) :
    (run : Act Event (Pump ω) Unit).run p = (loop p.polls >>= fun _ => finish).run p := by
  rw [← turns_eq]
  rfl

theorem requests_cancel (p : Pump ω) :
    requests (cancel.run p).events = [.display [Bytes.lineFeed]] := by
  cases h : ((Sides.display [Bytes.lineFeed] : Act Effect ω Unit).run p.sides).outcome <;>
    simp [cancel, display, Act.run_bind_eq, h]

theorem session_cancel (hok : (cancel.run p).outcome = .ok ()) :
    (cancel.run p).state.session = p.session.become .closing := by
  obtain ⟨_, -, -, hstate, -⟩ := Act.exists_of_bind_ok hok
  rw [cancel, hstate]
  rfl

/-- A session that the user has ended before it runs ends without an iteration. -/
theorem run_of_cancelled (hactive : p.session.state = .active)
    (hcancelled : Sides.isCancelled p.sides = true) :
    iterations p.polls p = [] ∧ (run : Act Event (Pump ω) Unit).run p = cancel.run p := by
  obtain ⟨hloop, hnone⟩ := loop_of_not_goesOn p.polls (goesOn_of_cancelled hcancelled)
  have hconnected : p.session.isConnected = true := decide_eq_true hactive
  refine ⟨hnone, ?_⟩
  rw [run_eq_turns, Act.run_bind_eq, hloop]
  simp only [run_finish, if_pos hconnected, List.nil_append]

/-- How a session stands after a run in which nothing failed. -/
structure Ended (p q : Pump ω) : Prop where
  state : q.session.state = .closing
  history : q.session.history = p.session.history ++ [.closing]

omit [Sides ω] in
theorem ended_become {q : Pump ω} {engine : Engine}
    (h : q.session = { p.session with engine }.become .closing) : Ended p q :=
  ⟨by rw [h]; rfl, by rw [h]; rfl⟩

/-- The one transfer of each iteration of a run in which nothing failed. -/
theorem transfers_of_mem (hactive : p.session.state = .active)
    (hok : ((loop p.polls).run p).outcome = .ok ()) {i : Iteration ω}
    (hi : i ∈ iterations p.polls p) :
    ∃ asked closed, i.Transfers asked closed ∧
      requests i.ran.events = (if i.poll.interrupts then [.interrupt] else []) ++ asked ∧
      (closed = true ↔ i.ran.state.session.state = .closing) := by
  obtain ⟨hran, hbefore⟩ := (loop_spec p.polls hactive hok).1 i hi
  obtain ⟨asked, closed, engine, htransfers, hasked, hafter⟩ := Iteration.exists_transfers hran
  refine ⟨asked, closed, htransfers, hasked, ?_⟩
  rw [hafter]
  cases closed with
  | true => exact ⟨fun _ => rfl, fun _ => rfl⟩
  | false =>
    have hstill : ({ i.before.session with engine }.after false).state = .active := hbefore
    rw [hstill]
    simp

/-- The user is told once why the session ends, after everything else. -/
theorem ending_of_ok (hstays : Sides.StaysCancelled ω) (hactive : p.session.state = .active)
    (hok : ((run : Act Event (Pump ω) Unit).run p).outcome = .ok ()) :
    let r := (run : Act Event (Pump ω) Unit).run p
    let its := iterations p.polls p
    ((loop p.polls).run p).outcome = .ok () ∧ Ended p r.state ∧
      ∃ ending, r.events = (its.flatMap fun i => i.ran.events) ++ ending ∧
        (Sides.isCancelled r.state.sides = true ∧
            (∀ i ∈ its, i.ran.state.session.state = .active) ∧
            requests ending = [.display [Bytes.lineFeed]] ∨
          ending = [] ∧ ∃ front i, its = front ++ [i] ∧ i.ran.state.session.state = .closing ∧
            (requests i.ran.events).getLast? = some (.display closedByHost)) := by
  intro r its
  have hr : r = (loop p.polls >>= fun _ => finish).run p := run_eq_turns p
  change r.outcome = .ok () at hok
  rw [hr] at hok ⊢
  obtain ⟨_, hloop, hfinish, hstate, hevents⟩ := Act.exists_of_bind_ok hok
  obtain ⟨-, engine, closed, hsession, hopen, hclosed⟩ := loop_spec p.polls hactive hloop
  have hover := goesOn_loop hstays p.polls p hloop
  refine ⟨hloop, ?_⟩
  rw [hstate, hevents, events_loop]
  rw [run_finish] at hfinish ⊢
  cases closed with
  | false =>
    have hconnected : ((loop p.polls).run p).state.session.isConnected = true := by
      rw [hsession]
      exact decide_eq_true hactive
    rw [if_pos hconnected] at hfinish ⊢
    have hcancelled : Sides.isCancelled ((loop p.polls).run p).state.sides = true := by
      rw [goesOn, hconnected] at hover
      simpa using hover
    have hkept := (invariant_of_sides hstays.keeps).leads_cancel _ hcancelled
    have hclosing := session_cancel hfinish
    rw [hsession] at hclosing
    exact ⟨ended_become hclosing, _, rfl, .inl ⟨hkept.1, hopen rfl, requests_cancel _⟩⟩
  | true =>
    have hconnected : ¬((loop p.polls).run p).state.session.isConnected = true := by
      rw [hsession]
      simp [Session.after, Session.become, Session.isConnected]
    rw [if_neg hconnected]
    obtain ⟨front, i, hfront, hclosing⟩ := hclosed rfl
    refine ⟨ended_become hsession, [], rfl, .inr ⟨rfl, front, i, hfront, hclosing, ?_⟩⟩
    have hmem : i ∈ its := by simp [its, hfront]
    obtain ⟨asked, closed, htransfers, hasked, hiff⟩ := transfers_of_mem hactive hloop hmem
    obtain rfl := hiff.2 hclosing
    have hlast := Iteration.getLast?_of_transfers htransfers
    rw [hasked, List.getLast?_append, hlast]
    rfl

/-- Once the user has ended a session, at whatever moment of an iteration, no further iteration is
started, so that a script of polls after which every poll interrupts is followed by one poll at
most. In a run in which nothing fails each iteration makes one transfer, the session is closing at
the end, and the last thing that is asked for is to show why: a line end, or that the remote host
closed the connection if the last iteration found that. At a console a line with a control that
means the end is as good as an interrupt. -/
theorem run_cancelled (hstays : Sides.StaysCancelled ω) {p : Pump ω}
    (hactive : p.session.state = .active) :
    let r := (run : Act Event (Pump ω) Unit).run p
    let its := iterations p.polls p
    (∀ P : ω → Prop, Sides.Reliable P none → P p.sides →
      (∀ poll ∈ p.polls, ∃ side, poll.ready = .ok side) → r.outcome = .ok ()) ∧
    (its.Pairwise fun i _ => ¬i.Cancelled) ∧
    (∀ i ∈ its, i.poll.interrupts = true → i.Cancelled) ∧
    (Sides.isCancelled p.sides = true →
      its = [] ∧ requests r.events = [.display [Bytes.lineFeed]]) ∧
    (∀ script more, p.polls = script ++ more → (∀ poll ∈ more, poll.interrupts = true) →
      its.length ≤ script.length + 1) ∧
    (r.outcome = .ok () →
      Ended p r.state ∧
      (∀ i ∈ its, ∃ asked closed, i.Transfers asked closed ∧
        requests i.ran.events = (if i.poll.interrupts then [.interrupt] else []) ++ asked ∧
        (closed = true ↔ i.ran.state.session.state = .closing)) ∧
      ∃ ending, r.events = (its.flatMap fun i => i.ran.events) ++ ending ∧
        (Sides.isCancelled r.state.sides = true ∧
            (∀ i ∈ its, i.ran.state.session.state = .active) ∧
            requests ending = [.display [Bytes.lineFeed]] ∨
          ending = [] ∧ ∃ front i, its = front ++ [i] ∧ i.ran.state.session.state = .closing ∧
            (requests i.ran.events).getLast? = some (.display closedByHost))) ∧
    Sides.StaysCancelled Surroundings ∧
    ∀ i : Iteration Surroundings, i.polled.outcome = .ok (some .console) →
      Console.endsSession (Bytes.nextLine i.polled.state.sides.console.input).1 = true →
      i.line? = some [] ∧ i.Cancelled := by
  intro r its
  refine ⟨?_, pairwise_iterations hstays p.polls p, ?_, ?_, ?_, ?_, ?_, ?_⟩
  · intro P hreliable hsides hpolls
    exact ends_run hreliable ⟨hactive, hsides⟩ hpolls
  · intro i _ hinterrupts
    exact Iteration.cancelled_of_interrupts hstays hinterrupts
  · intro hcancelled
    obtain ⟨hnone, hrun⟩ := run_of_cancelled hactive hcancelled
    have hr : r = cancel.run p := hrun
    exact ⟨hnone, by rw [hr, requests_cancel]⟩
  · intro script more hpolls hmore
    have hlength := length_iterations_le hstays script more hmore p
    rwa [← hpolls] at hlength
  · intro hok
    obtain ⟨hloop, hended, hending⟩ := ending_of_ok hstays hactive hok
    exact ⟨hended, fun i hi => transfers_of_mem hactive hloop hi, hending⟩
  · exact Surroundings.staysCancelled
  · intro i hready hends
    exact Iteration.cancelled_of_endsSession hready hends

/-- The user sends a line and then types a control that means the end, in the second of three polls.
-/
theorem run_cancelled_hangingUp :
    let p : Pump Surroundings := (connect.run (start "log" .endless .standard (.v4 7) 23
      [⟨false, .ok (some .console)⟩, ⟨false, .ok (some .console)⟩, ⟨false, .ok none⟩]
      ⟨.fresh .pipe Console.standardMode [104, 105, 10, 3, 10] none, .fresh Socket.silent⟩)).state
    Sides.StaysCancelled Surroundings ∧ p.session.state = .active ∧
      (run.run p).outcome = .ok () ∧ (iterations p.polls p).length = 2 ∧
      (run.run p).state.session.history = [.connecting, .active, .closing] ∧
      requests (run.run p).events =
        [.readLine, .write [104, 105, 13, 10], .readLine, .display [Bytes.lineFeed]] := by
  intro p
  have hactive : p.session.state = .active := rfl
  have hok : (run.run p).outcome = .ok () := rfl
  obtain ⟨-, -, -, -, -, hrun, hstays, -⟩ := run_cancelled Surroundings.staysCancelled hactive
  obtain ⟨hended, -, -⟩ := hrun hok
  exact ⟨hstays, hactive, hok, rfl, hended.history, rfl⟩

end Pump

end Telnet
