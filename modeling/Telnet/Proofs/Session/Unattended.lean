import Telnet.Proofs.Connection.Writing
import Telnet.Proofs.Session.Cancelling
import Telnet.Proofs.Session.Socket
import Telnet.Readiness

/-!
# A session that nobody attends

A session whose console is always ready reads one line in each iteration, as it does when its input
is a file. It sends the lines before the first one that ends it, asks nothing of the remote host,
and ends with a line end (`conduct_unattended`).
-/

namespace Telnet

namespace Effect

def shown (events : List Effect) : Bytes :=
  events.flatMap fun
    | .displayed bytes => bytes
    | _ => []

def isPoll : Effect → Bool
  | .poll _ => true
  | _ => false

/-- What is counted of some effects: the polls, what the socket took and what was shown. Nothing is
received, and nobody looks whether there is something. -/
structure Tally (events : List Effect) (polls : Nat) (sent shown : Bytes) : Prop where
  polls : events.countP isPoll = polls
  sent : accepted events = sent
  shown : Effect.shown events = shown
  unread : ∀ limit isPeek, .receive limit isPeek ∉ events

theorem Tally.append {es es' : List Effect} {m n : Nat} {sent sent' shown shown' : Bytes}
    (h : Tally es m sent shown) (h' : Tally es' n sent' shown') :
    Tally (es ++ es') (m + n) (sent ++ sent') (shown ++ shown') := by
  refine ⟨?_, ?_, ?_, fun limit isPeek hmem => ?_⟩
  · rw [List.countP_append, h.polls, h'.polls]
  · rw [accepted_append, h.sent, h'.sent]
  · rw [Effect.shown, List.flatMap_append, ← h.shown, ← h'.shown]
    rfl
  · rcases List.mem_append.1 hmem with hleft | hright
    · exact h.unread limit isPeek hleft
    · exact h'.unread limit isPeek hright

/-- An effect of a write, or one that is not counted. -/
def OfWriting : Effect → Prop
  | .poll _ | .receive _ _ | .displayed _ => False
  | _ => True

theorem Tally.of_writing {es : List Effect} (h : ∀ e ∈ es, e.OfWriting) :
    Tally es 0 (accepted es) [] := by
  refine ⟨?_, rfl, ?_, ?_⟩
  · refine List.countP_eq_zero.2 fun e he hpoll => ?_
    have hwriting := h e he
    cases e with
    | poll => exact hwriting
    | _ => cases hpoll
  · refine List.flatMap_eq_nil_iff.2 fun e he => ?_
    have hwriting := h e he
    cases e with
    | displayed => exact hwriting.elim
    | _ => rfl
  · intro limit isPeek hmem
    exact h _ hmem

def Quiet (e : Effect) : Prop := e.OfWriting ∧ ¬e.IsSend

theorem OfScope.quiet {e : Effect} (h : e.OfScope) : e.Quiet := by
  cases e with
  | created | unblocked | connecting | errorRead | waitWritable | closing | closed =>
    exact ⟨trivial, fun hsend => hsend⟩
  | _ =>
    rcases h with h | h | h | h
    · exact h.elim
    · exact h.elim
    all_goals cases h

theorem Tally.of_quiet {es : List Effect} (h : ∀ e ∈ es, e.Quiet) : Tally es 0 [] [] := by
  have htally := Tally.of_writing fun e he => (h e he).1
  rwa [accepted_of_not_isSend fun e he => (h e he).2] at htally

end Effect

/-! ### The lines of an input -/

namespace Console

def unended (input : Bytes) : List Bytes :=
  (Bytes.lines input).takeWhile fun line => !endsSession line

/-- The line that ends the session, unless that is the end of the input. -/
def ending? (input : Bytes) : Option Bytes := (Bytes.lines input).find? endsSession

theorem unended_nil : unended [] = [] ∧ ending? [] = none := by
  simp [unended, ending?, Bytes.lines]

theorem unended_cons (b : UInt8) (bs : Bytes) :
    let next := Bytes.nextLine (b :: bs)
    (endsSession next.1 = true → unended (b :: bs) = [] ∧ ending? (b :: bs) = some next.1) ∧
      (endsSession next.1 = false → unended (b :: bs) = next.1 :: unended next.2 ∧
        ending? (b :: bs) = ending? next.2) := by
  intro next
  have hlines : Bytes.lines (b :: bs) = next.1 :: Bytes.lines next.2 := by
    rw [Bytes.lines]
  rw [unended, ending?, hlines, List.takeWhile_cons, List.find?_cons]
  constructor
  · intro hends
    rw [hends]
    exact ⟨rfl, rfl⟩
  · intro hgoes
    rw [hgoes]
    exact ⟨rfl, rfl⟩

end Console

namespace Surroundings

/-- There is an open connection, and nothing can fail when it is written to. -/
def Writable (s : Surroundings) : Prop :=
  ∃ l, s.network.link = some l ∧ l.isOpen = true ∧ l.socket.Accepting fun _ => False

variable {s : Surroundings}

theorem Writable.open (h : s.Writable) : s.network.Open := by
  obtain ⟨l, hlink, hopen, -⟩ := h
  exact ⟨l, hlink, hopen⟩

theorem Writable.write (h : s.Writable) (bytes : Bytes) :
    let r := (Sides.write bytes).run s
    r.outcome = .ok () ∧ r.state.console = s.console ∧ r.state.Writable ∧
      Effect.Tally r.events 0 bytes [] := by
  intro r
  obtain ⟨l, hlink, hopen, haccepting⟩ := h
  have hr : r = _ := run_onLink (Link.write bytes) hlink
  obtain ⟨houtcome, hstate, haccepted, hevents⟩ := Link.write_all hopen haccepting bytes
  have htally := Effect.Tally.of_writing fun e he => by
    rcases hevents e he with rfl | hsend | ⟨record, rfl⟩
    · trivial
    · cases e with
      | sent | sendBlocked | sendFailed => trivial
      | _ => exact hsend.elim
    · trivial
  rw [haccepted] at htally
  rw [hr]
  exact ⟨houtcome, rfl, ⟨_, rfl, hstate⟩, htally⟩

theorem Writable.of_connect {address : Address} {port : Int} {family : Family}
    (haccepting : s.network.nextSocket.Accepting fun _ => False)
    (hopen : ((Sides.openFor family).run s).outcome = .ok ()) :
    ((Sides.connect address port).run ((Sides.openFor family).run s).state).state.Writable := by
  rw [state_openFor hopen]
  show ((onLink (Link.connect address port)).run _).state.Writable
  rw [run_onLink _ rfl]
  exact ⟨_, rfl, Link.accepting_connect address port rfl haccepting⟩

end Surroundings

/-- A poll for which the console is ready. -/
def Poll.ofConsole : Poll := ⟨false, .ok (some .console)⟩

namespace Pump

open Surroundings

/-- The session is connected, the user has not ended it, and `input` is still to be read. -/
structure Unattended (input : Bytes) (p : Pump Surroundings) : Prop where
  active : p.session.state = .active
  input : p.sides.console.input = input
  endOfText : p.sides.console.endOfText = false
  endOfTransmission : p.sides.console.endOfTransmission = false
  writable : p.sides.Writable

/-- How a pump stands after some lines, with these flags at its console. -/
structure Stands (p : Pump Surroundings) (endOfText endOfTransmission : Bool)
    (q : Pump Surroundings) : Prop where
  session : q.session = p.session
  displayFailure : q.sides.console.displayFailure = p.sides.console.displayFailure
  endOfText : q.sides.console.endOfText = endOfText
  endOfTransmission : q.sides.console.endOfTransmission = endOfTransmission
  writable : q.sides.Writable

variable {p : Pump Surroundings} {input : Bytes}

/-! ### One line -/

theorem run_sending (hwritable : p.sides.Writable) (line : Bytes) :
    let r := (if !line.isEmpty then write line.networkEnds else pure ()).run p
    r.outcome = .ok () ∧ r.state.session = p.session ∧ r.state.sides.console = p.sides.console ∧
      r.state.sides.Writable ∧ Effect.Tally (effectsOf r.events) 0 line.networkEnds [] := by
  cases line with
  | nil => exact ⟨rfl, rfl, rfl, hwritable, .of_quiet fun e he => by cases he⟩
  | cons b bs =>
    obtain ⟨houtcome, hconsole, hstill, htally⟩ := hwritable.write (Bytes.networkEnds (b :: bs))
    refine ⟨houtcome, rfl, hconsole, hstill, ?_⟩
    have hevents : effectsOf ((write (Bytes.networkEnds (b :: bs))).run p).events =
        ((Sides.write (Bytes.networkEnds (b :: bs))).run p.sides).events := by
      rw [write, run_ask, effectsOf_asked, effectsOf_effects]
    exact hevents ▸ htally

theorem transferLine_spec (h : Unattended input p) :
    let line := (Bytes.nextLine input).1
    let ends := Console.endsSession line
    let r := transferLine.run p
    r.outcome = .ok () ∧
      Stands p (line.contains endOfTextByte) (ends && !line.contains endOfTextByte) r.state ∧
      r.state.sides.console.input = (Bytes.nextLine input).2 ∧
      Effect.Tally (effectsOf r.events) 0 (if ends then [] else line.networkEnds) [] := by
  intro line ends r
  obtain ⟨log, hlog, hread⟩ := Console.exists_run_readLine p.sides.console
  have hquiet : Effect.Tally log 0 [] [] := .of_quiet fun e he => by
    obtain ⟨record, rfl⟩ := hlog e he
    exact ⟨trivial, fun hsend => hsend⟩
  rw [h.input, h.endOfText, h.endOfTransmission] at hread
  simp only [Bool.false_or] at hread
  let q : Pump Surroundings := { p with sides := { p.sides with console :=
    { p.sides.console with
      input := (Bytes.nextLine input).2
      endOfText := line.contains endOfTextByte
      endOfTransmission := ends && !line.contains endOfTextByte } } }
  let sent : Bytes := if ends then [] else line
  have hsides : (Sides.readLine : Act Effect Surroundings Bytes).run p.sides =
      ⟨.ok sent, q.sides, log⟩ := by
    show (onConsole Console.readLine).run p.sides = _
    rw [onConsole, Act.run_on, hread]
  have hasked : (ask .readLine Sides.readLine).run p =
      ⟨.ok sent, q, .asked .readLine :: log.map .effect⟩ := by
    rw [run_ask, hsides]
  obtain ⟨houtcome, hsession, hconsole, hwritable, htally⟩ := run_sending (p := q) h.writable sent
  have hends : sent.networkEnds = if ends then [] else line.networkEnds := by
    simp only [sent]
    split <;> rfl
  have hr : r = _ := Act.run_bind_ok hasked
  rw [hr]
  refine ⟨houtcome, ⟨hsession, ?_, ?_, ?_, hwritable⟩, ?_, ?_⟩
  · exact (congrArg Console.displayFailure hconsole :)
  · exact (congrArg Console.endOfText hconsole :)
  · exact (congrArg Console.endOfTransmission hconsole :)
  · exact (congrArg Console.input hconsole :)
  · rw [effectsOf_append, effectsOf_asked, effectsOf_effects, ← hends]
    simpa using hquiet.append htally

theorem Unattended.polls (h : Unattended input p) (rest : List Poll) :
    Unattended input { p with polls := rest } :=
  ⟨h.active, h.input, h.endOfText, h.endOfTransmission, h.writable⟩

theorem ran_ofConsole (h : Unattended input p) (rest : List Poll) :
    let line := (Bytes.nextLine input).1
    let ends := Console.endsSession line
    let r := (⟨.ofConsole, { p with polls := rest }⟩ : Iteration Surroundings).ran
    r.outcome = .ok () ∧
      Stands p (line.contains endOfTextByte) (ends && !line.contains endOfTextByte) r.state ∧
      r.state.sides.console.input = (Bytes.nextLine input).2 ∧
      Effect.Tally (effectsOf r.events) 1 (if ends then [] else line.networkEnds) [] := by
  intro line ends r
  let q : Pump Surroundings := { p with polls := rest }
  have hwait : (wait .ofConsole).run q = ⟨.ok (some .console), q, [.effect (.poll pollInterval)]⟩ :=
    rfl
  have hpoll : Effect.Tally [.poll pollInterval] 1 [] [] :=
    ⟨rfl, rfl, rfl, fun limit isPeek hmem => by simp at hmem⟩
  obtain ⟨houtcome, hstands, hinput, htally⟩ := transferLine_spec (h.polls rest)
  have hr : r = (wait .ofConsole >>= transfer).run q := by
    rw [← turn_eq]
    rfl
  rw [hr, Act.run_bind_ok hwait]
  exact ⟨houtcome, ⟨hstands.session, hstands.displayFailure, hstands.endOfText,
    hstands.endOfTransmission, hstands.writable⟩, hinput, hpoll.append htally⟩

/-! ### All lines -/

theorem Unattended.goesOn (h : Unattended input p) : p.goesOn = true := by
  have hconnected : p.session.isConnected = true := decide_eq_true h.active
  have hflags : Sides.isCancelled p.sides = false := by
    show p.sides.console.isCancelled = false
    rw [Console.isCancelled, h.endOfText, h.endOfTransmission]
    rfl
  rw [Pump.goesOn, hconnected, hflags]
  rfl

theorem Stands.trans {a b a' b' : Bool} {q r : Pump Surroundings} (h : Stands p a b q)
    (h' : Stands q a' b' r) : Stands p a' b' r where
  session := h'.session.trans h.session
  displayFailure := h'.displayFailure.trans h.displayFailure
  endOfText := h'.endOfText
  endOfTransmission := h'.endOfTransmission
  writable := h'.writable

theorem Stands.isCancelled {a b : Bool} {q : Pump Surroundings} (h : Stands p a b q) :
    Sides.isCancelled q.sides = (a || b) := by
  show q.sides.console.isCancelled = (a || b)
  rw [Console.isCancelled, h.endOfText, h.endOfTransmission]

/-- A line that ends the session is the last one. -/
theorem loop_of_ends (h : Unattended input p)
    (hends : Console.endsSession (Bytes.nextLine input).1 = true) (rest : List Poll) :
    let isText := (Bytes.nextLine input).1.contains endOfTextByte
    let r := (loop (.ofConsole :: rest)).run p
    r.outcome = .ok () ∧ Stands p isText (!isText) r.state ∧
      Effect.Tally (effectsOf r.events) 1 [] [] := by
  intro isText r
  obtain ⟨houtcome, hstands, -, htally⟩ := ran_ofConsole h rest
  rw [hends] at hstands htally
  have hover := hstands.isCancelled.trans (Bool.or_not_self isText)
  have hnothing := (loop_of_not_goesOn rest (goesOn_of_cancelled hover)).1
  have hr : r = _ := run_loop_cons .ofConsole rest h.goesOn
  rw [hr, houtcome, hnothing]
  refine ⟨rfl, hstands, ?_⟩
  simpa using htally

theorem loop_of_goes (h : Unattended input p)
    (hgoes : Console.endsSession (Bytes.nextLine input).1 = false) (rest : List Poll) :
    ∃ q, Unattended (Bytes.nextLine input).2 q ∧ Stands p false false q ∧
      let r := (loop (.ofConsole :: rest)).run p
      let r' := (loop rest).run q
      r.outcome = r'.outcome ∧ r.state = r'.state ∧
        ∀ polls sent shown, Effect.Tally (effectsOf r'.events) polls sent shown →
          Effect.Tally (effectsOf r.events) (polls + 1)
            ((Bytes.nextLine input).1.networkEnds ++ sent) shown := by
  obtain ⟨houtcome, hstands, hinput, htally⟩ := ran_ofConsole h rest
  have hnoText : (Bytes.nextLine input).1.contains endOfTextByte = false := by
    simp only [Console.endsSession, Bool.or_eq_false_iff] at hgoes
    exact hgoes.1.2
  rw [hgoes, hnoText] at hstands
  rw [hgoes] at htally
  have hactive : (Iteration.ran ⟨.ofConsole, { p with polls := rest }⟩).state.session.state =
      .active := (congrArg Session.state hstands.session).trans h.active
  refine ⟨_, ⟨hactive, hinput, hstands.endOfText, hstands.endOfTransmission, hstands.writable⟩,
    hstands, ?_⟩
  rw [run_loop_cons .ofConsole rest h.goesOn, houtcome]
  refine ⟨rfl, rfl, fun polls sent shown hrest => ?_⟩
  rw [effectsOf_append, Nat.add_comm]
  exact htally.append hrest

theorem loop_unattended (more : List Poll) (h : Unattended input p) :
    let lines := Console.unended input
    let isText := (Console.ending? input).any fun line => line.contains endOfTextByte
    let r := (loop (List.replicate (lines.length + 1) .ofConsole ++ more)).run p
    r.outcome = .ok () ∧ Stands p isText (!isText) r.state ∧
      Effect.Tally (effectsOf r.events) (lines.length + 1) (lines.flatMap Bytes.networkEnds)
        [] := by
  -- The induction is on the lines of the input: each iteration reads one, and the one that reads
  -- nothing any more ends the session as well.
  induction input using Bytes.lines.induct generalizing p with
  | case1 =>
    obtain ⟨hlines, hending⟩ := Console.unended_nil
    rw [hlines, hending]
    exact loop_of_ends h rfl more
  | case2 b bs ih =>
    obtain ⟨hlast, hother⟩ := Console.unended_cons b bs
    cases hends : Console.endsSession (Bytes.nextLine (b :: bs)).1 with
    | true =>
      obtain ⟨hlines, hending⟩ := hlast hends
      rw [hlines, hending]
      exact loop_of_ends h hends more
    | false =>
      obtain ⟨hlines, hending⟩ := hother hends
      let lines := Console.unended (Bytes.nextLine (b :: bs)).2
      obtain ⟨q, hq, hstands, houtcome, hstate, htally⟩ := loop_of_goes h hends
        (List.replicate (lines.length + 1) .ofConsole ++ more)
      obtain ⟨hok, hrest, hcount⟩ := ih hq
      rw [hlines, hending]
      refine ⟨houtcome.trans hok, ?_, htally _ _ _ hcount⟩
      exact hstate ▸ hstands.trans hrest

/-! ### A whole session -/

def farewell (displayFailure : Option Failure) : Bytes :=
  if displayFailure = none then [Bytes.lineFeed] else []

theorem run_display_lineFeed (p : Pump Surroundings) :
    (display [Bytes.lineFeed]).run p =
      match p.sides.console.displayFailure with
      | none => ⟨.ok (), p, [.asked (.display [Bytes.lineFeed]),
          .effect (.displayed [Bytes.lineFeed]), .effect .flushed]⟩
      | some f => ⟨.error f, p, [.asked (.display [Bytes.lineFeed])]⟩ := by
  cases hbroken : p.sides.console.displayFailure <;>
    simp [display, Sides.display, onConsole, Console.display, Act.run_bind_eq, hbroken]

theorem cancel_spec (p : Pump Surroundings) :
    let r := cancel.run p
    r.outcome = brokenOutcome p.sides.console.displayFailure ∧ r.state.sides = p.sides ∧
      Effect.Tally (effectsOf r.events) 0 [] (farewell p.sides.console.displayFailure) := by
  intro r
  have hdisplay := run_display_lineFeed p
  cases hbroken : p.sides.console.displayFailure with
  | none =>
    rw [hbroken] at hdisplay
    obtain ⟨record, hbecome⟩ := run_become .closing p
    have hr : r = _ := Act.run_bind_ok hdisplay
    rw [hr, hbecome]
    exact ⟨rfl, rfl, rfl, rfl, rfl, fun limit isPeek hmem => by simp at hmem⟩
  | some f =>
    rw [hbroken] at hdisplay
    have hr : r = _ := Act.run_bind_error hdisplay
    rw [hr]
    exact ⟨rfl, rfl, .of_quiet fun e he => by cases he⟩

/-- A run reads the lines up to the first one that ends the session. -/
theorem run_unattended (h : Unattended input p) (more : List Poll)
    (hpolls : p.polls = List.replicate ((Console.unended input).length + 1) .ofConsole ++ more) :
    let lines := Console.unended input
    let isText := (Console.ending? input).any fun line => line.contains endOfTextByte
    let broken := p.sides.console.displayFailure
    let r := run.run p
    r.outcome = brokenOutcome broken ∧
      r.state.sides.console.endOfText = isText ∧
      r.state.sides.console.endOfTransmission = !isText ∧
      Effect.Tally (effectsOf r.events) (lines.length + 1) (lines.flatMap Bytes.networkEnds)
        (farewell broken) := by
  intro lines isText broken r
  obtain ⟨hok, hstands, htally⟩ := loop_unattended more h
  rw [← hpolls] at hok hstands htally
  obtain ⟨houtcome, hsides, hfarewell⟩ := cancel_spec ((loop p.polls).run p).state
  have hconnected : ((loop p.polls).run p).state.session.isConnected = true := by
    rw [hstands.session]
    exact decide_eq_true h.active
  rw [hstands.displayFailure] at houtcome hfarewell
  have hr : r = _ := run_eq_turns p
  rw [hr, Act.run_bind_eq, hok]
  simp only [run_finish, hconnected, if_true]
  refine ⟨houtcome, ?_, ?_, ?_⟩
  · rw [hsides]
    exact hstands.endOfText
  · rw [hsides]
    exact hstands.endOfTransmission
  · rw [effectsOf_append]
    simpa using htally.append hfarewell

section

variable (p : Pump Surroundings)

theorem quiet_of_leads {x : Act Event (Pump Surroundings) Unit}
    (h : x.Leads (SidesHold fun s => s.console = p.sides.console) (Event.Only Effect.Quiet)
      (SidesHold fun s => s.console = p.sides.console)) :
    (x.run p).state.sides.console = p.sides.console ∧
      Effect.Tally (effectsOf (x.run p).events) 0 [] [] := by
  obtain ⟨hconsole, hevents⟩ := h p rfl
  exact ⟨hconsole, .of_quiet fun e he => hevents _ (mem_effectsOf.1 he) e rfl⟩

theorem connect_quiet :
    (connect.run p).state.sides.console = p.sides.console ∧
      Effect.Tally (effectsOf (connect.run p).events) 0 [] [] := by
  refine quiet_of_leads p (leads_connect ?_ ?_ ?_ ?_)
  · exact fun _ => ⟨trivial, fun hsend => hsend⟩
  · exact fun family => (leads_openFor (fun _ _ hs => hs) family).allow fun _ he => he.quiet
  · exact fun address port => (Surroundings.leads_connect (fun _ _ hs => hs) address port).allow
      fun _ he => he.quiet
  · exact (leads_close fun _ _ hs => hs).allow fun _ he => he.quiet

theorem release_quiet :
    (release.run p).state.sides.console = p.sides.console ∧
      Effect.Tally (effectsOf (release.run p).events) 0 [] [] := by
  refine quiet_of_leads p (leads_release ?_ ?_)
  · exact fun _ => ⟨trivial, fun hsend => hsend⟩
  · exact (leads_close fun _ _ hs => hs).allow fun _ he => he.quiet

end

theorem unattended_connect (hok : (connect.run p).outcome = .ok ())
    (htext : p.sides.console.endOfText = false)
    (htransmission : p.sides.console.endOfTransmission = false)
    (haccepting : p.sides.network.nextSocket.Accepting fun _ => False) :
    Unattended p.sides.console.input (connect.run p).state ∧
      (connect.run p).state.polls = p.polls := by
  obtain ⟨hopened, hattempted⟩ := of_connect hok
  obtain ⟨-, hsides⟩ := of_attempted hattempted
  obtain ⟨-, hstate, -⟩ := run_connect_ok p hopened hattempted
  obtain ⟨hconsole, -⟩ := connect_quiet p
  have hwritable : p.attempted.state.sides.Writable := by
    rw [hsides]
    exact .of_connect haccepting hopened
  refine ⟨⟨?_, ?_, ?_, ?_, ?_⟩, ?_⟩
  · rw [hstate]
    rfl
  · rw [hconsole]
  · rw [hconsole, htext]
  · rw [hconsole, htransmission]
  · rw [hstate]
    exact hwritable
  · rw [hstate]
    exact p.attempted_same.2

/-- A session that is connected, whose console is always ready and whose socket takes what is sent
to it, polls once for each line of the input before the first one that ends the session, and once
more for that one. It sends those lines with network line ends and nothing else, receives nothing,
and shows a line end and nothing else, unless the display fails. The flag of the line that ended it
is up, and the session is closed. A console with a file is always ready. -/
theorem conduct_unattended (logger : String) (limit : Limit) (term : TerminalType)
    (address : Address) (port : Int) (s : Surroundings) (more : List Poll)
    (htext : s.console.endOfText = false) (htransmission : s.console.endOfTransmission = false)
    (haccepting : s.network.nextSocket.Accepting fun _ => False) :
    let lines := Console.unended s.console.input
    let isText := (Console.ending? s.console.input).any fun line => line.contains endOfTextByte
    let polls := List.replicate (lines.length + 1) .ofConsole ++ more
    let p := start logger limit term address port polls s
    let r := conduct.run (.outside, p)
    let effects := effectsOf r.events
    ((connect.run p).outcome = .ok () →
      r.outcome = brokenOutcome s.console.displayFailure ∧
      effects.countP Effect.isPoll = lines.length + 1 ∧
      Effect.accepted effects = lines.flatMap Bytes.networkEnds ∧
      (∀ limit isPeek, .receive limit isPeek ∉ effects) ∧
      Effect.shown effects = farewell s.console.displayFailure ∧
      r.state.2.sides.console.endOfText = isText ∧
      r.state.2.sides.console.endOfTransmission = !isText ∧
      r.state.2.session.history = [.connecting, .active, .closing, .closed]) ∧
    (s.console.kind = .file → ∀ after failure remote limit,
      Readiness.poll [⟨s.console.isPollable, after, failure⟩, remote] limit = .ok (some 0)) := by
  intro lines isText polls p r effects
  refine ⟨fun hok => ?_, fun hkind after failure remote limit => ?_⟩
  · -- Only running counts for something; to enter and to leave is quiet.
    obtain ⟨hunattended, hpolls⟩ := unattended_connect (p := p) hok htext htransmission haccepting
    obtain ⟨hconsole, hconnect⟩ := connect_quiet p
    obtain ⟨houtcome, hflag, hflag', hrun⟩ := run_unattended hunattended more hpolls
    obtain ⟨hopen, -⟩ := run_socket hunattended.writable.open
    obtain ⟨hclose, -⟩ := run_close hopen
    obtain ⟨hopened, hattempted⟩ := of_connect hok
    obtain ⟨hstate, hevents⟩ := run_conduct_entered p hok hclose
    obtain ⟨hleft, hrelease⟩ := release_quiet p.ended
    obtain ⟨-, -, -, hhistory⟩ := conduct_entered p hopened hattempted hclose
    have htally : Effect.Tally effects (lines.length + 1) (lines.flatMap Bytes.networkEnds)
        (farewell s.console.displayFailure) := by
      have hall := hconnect.append (hrun.append hrelease)
      simp only [hconsole, Nat.zero_add, List.nil_append, List.append_nil] at hall
      simp only [effects, r, hevents, effectsOf_append]
      exact hall
    refine ⟨?_, htally.polls, htally.sent, htally.unread, htally.shown, ?_, ?_, hhistory⟩
    · rw [hconsole] at houtcome
      exact (outcome_conduct_entered p hok hclose).trans houtcome
    · simp only [r, hstate, hleft]
      exact hflag
    · simp only [r, hstate, hleft]
      exact hflag'
  · simp [Readiness.poll, Readiness.alwaysReady?, Console.isPollable, hkind, List.findIdx?_cons]

/-- A file with a control in its second line, and a socket that takes one byte and then is not ready
for once. -/
theorem conduct_unattended_with_control :
    let input : Bytes := [0x61, 0x0a, 0x62, 0x04, 0x63, 0x0a]
    let s : Surroundings := ⟨.fresh .file [] input none,
      .fresh { Socket.silent with acceptances := [.upTo 1, .blocked] }⟩
    let p := start "log" .endless .standard (.v4 7) 23 [.ofConsole, .ofConsole] s
    let r := conduct.run (.outside, p)
    let effects := effectsOf r.events
    (connect.run p).outcome = .ok () ∧ r.outcome = .ok () ∧
      Effect.accepted effects = [0x61, 0x0d, 0x0a] ∧ Effect.shown effects = [0x0a] ∧
      r.state.2.sides.console.endOfText = false ∧
      r.state.2.sides.console.endOfTransmission = true := by
  intro input s p r effects
  have haccepting : s.network.nextSocket.Accepting fun _ => False := by
    refine ⟨rfl, fun f hf => ?_, fun f hf => ?_⟩
    · cases hf
    · simp [s, Network.fresh, Network.nextSocket] at hf
  have hlines : Console.unended input = [[0x61, 0x0a]] ∧
      Console.ending? input = some [0x62, 0x04, 0x63, 0x0a] := by
    simp [input, Console.unended, Console.ending?, Bytes.lines, Bytes.nextLine, Bytes.lineFeed,
      Console.endsSession, endOfTextByte, endOfTransmissionByte]
  have hconnect : (connect.run p).outcome = .ok () := by decide
  have hp : start "log" .endless .standard (.v4 7) 23
      (List.replicate ((Console.unended s.console.input).length + 1) .ofConsole ++ []) s = p := by
    show start _ _ _ _ _ (List.replicate ((Console.unended input).length + 1) _ ++ []) _ = p
    rw [hlines.1]
    rfl
  obtain ⟨hall, -⟩ := conduct_unattended "log" .endless .standard (.v4 7) 23 s [] rfl rfl haccepting
  have hr : conduct.run (.outside, p) = r := rfl
  have hinput : s.console.input = input := rfl
  rw [hp, hr, hinput, hlines.1, hlines.2] at hall
  obtain ⟨houtcome, -, hsent, -, hshown, htext, htransmission, -⟩ := hall hconnect
  exact ⟨hconnect, houtcome, hsent, hshown, htext, htransmission⟩

end Pump

end Telnet
