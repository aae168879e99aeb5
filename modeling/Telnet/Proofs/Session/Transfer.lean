import Telnet.Proofs.Negotiation.Echo
import Telnet.Proofs.Session.Iteration

/-!
# What one iteration does

An iteration in which nothing fails makes one transfer: it moves a line or a chunk, or it finds
nothing to move and looks whether the remote host is still there. `Iteration.Transfers` lists what
each of these asks of the two sides, and `Iteration.exists_transfers` says that there is nothing
else.
-/

namespace Telnet

open Pump

variable {ω : Type} [Sides ω]

/-- The session after it was or was not found that the remote host closed the connection. -/
def Session.after (closed : Bool) (s : Session) : Session := if closed then s.become .closing else s

/-- A look at the remote host: what it asks for, and whether it finds the connection closed. -/
def Looks (s : ω) (asked : List Request) (closed : Bool) : Prop :=
  ∃ status, ((Sides.status : Act Effect ω (Option Status)).run s).outcome = .ok status ∧
    closed = status.any Status.isClosed ∧
    asked = .status :: if closed then [.display closedByHost] else []

/-! ### The parts of a transfer -/

namespace Pump

variable {p : Pump ω}

theorem checkAlive_of_ok (hok : (checkAlive.run p).outcome = .ok ()) :
    ∃ asked closed, Looks p.sides asked closed ∧ requests (checkAlive.run p).events = asked ∧
      (checkAlive.run p).state.session = p.session.after closed := by
  have hrequests := requests_checkAlive p
  obtain ⟨status, hstatus, hnext, hstate, -⟩ := Act.exists_of_bind_ok hok
  have hread : ((Sides.status : Act Effect ω (Option Status)).run p.sides).outcome =
      .ok status := hstatus
  refine ⟨_, status.any Status.isClosed, ⟨status, hread, rfl, rfl⟩, ?_, ?_⟩
  · rw [hrequests, hread]
    cases status <;> rfl
  · cases status with
    | none =>
      rw [checkAlive, hstate]
      rfl
    | some s =>
      by_cases hclosed : s.isClosed = true
      · have hany : (some s).any Status.isClosed = true := hclosed
        simp only [if_pos hclosed] at hnext hstate
        obtain ⟨_, -, hnext, hnote, -⟩ := Act.exists_of_bind_ok hnext
        obtain ⟨_, -, -, hdisplay, -⟩ := Act.exists_of_bind_ok hnext
        rw [checkAlive, hstate, hnote, hdisplay, hany]
        rfl
      · have hany : (some s).any Status.isClosed = false := by simpa using hclosed
        simp only [if_neg hclosed] at hstate
        rw [checkAlive, hstate, hany]
        rfl

theorem transferLine_of_ok (hok : (transferLine.run p).outcome = .ok ()) :
    ∃ line, ((Sides.readLine : Act Effect ω Bytes).run p.sides).outcome = .ok line ∧
      requests (transferLine.run p).events =
        .readLine :: (if line.isEmpty then [] else [.write line.networkEnds]) ∧
      (transferLine.run p).state.session = p.session := by
  have hrequests := requests_transferLine p
  obtain ⟨line, hline, -, hstate, -⟩ := Act.exists_of_bind_ok hok
  have hread : ((Sides.readLine : Act Effect ω Bytes).run p.sides).outcome = .ok line := hline
  refine ⟨line, hread, ?_, ?_⟩
  · rw [hrequests, hread]
  · rw [transferLine, hstate]
    cases line <;> rfl

theorem perform_of_ok {n : Note} (hok : ((perform n).run p).outcome = .ok ()) :
    requests ((perform n).run p).events = (switched [n]).map .echo ∧
      ((perform n).run p).state.session = p.session := by
  cases n with
  | echo enabled => exact ⟨by simp [perform, switched, Note.switch?], rfl⟩
  | ignored | received | told => exact ⟨rfl, rfl⟩

theorem performs_of_ok (notes : List Note) (hok : ((notes.forM perform).run p).outcome = .ok ()) :
    requests ((notes.forM perform).run p).events = (switched notes).map .echo ∧
      ((notes.forM perform).run p).state.session = p.session := by
  induction notes generalizing p with
  | nil => exact ⟨rfl, rfl⟩
  | cons n notes ih =>
    obtain ⟨_, hn, hrest, hstate, hevents⟩ := Act.exists_of_bind_ok hok
    obtain ⟨hasked, hsession⟩ := perform_of_ok hn
    obtain ⟨hasked', hsession'⟩ := ih hrest
    have hcons : switched (n :: notes) = switched [n] ++ switched notes :=
      switched_append [n] notes
    refine ⟨?_, ?_⟩
    · rw [hcons, List.map_append, ← hasked, ← hasked', ← requests_append, ← hevents]
      rfl
    · exact (congrArg Pump.session hstate).trans (hsession'.trans hsession)

theorem deliver_of_ok {fed : Fed} (hok : ((deliver fed).run p).outcome = .ok ()) :
    requests ((deliver fed).run p).events =
        .display fed.display :: (if fed.response.isEmpty then [] else [.write fed.response]) ∧
      ((deliver fed).run p).state.session = p.session := by
  obtain ⟨_, hdisplay, -, hstate, -⟩ := Act.exists_of_bind_ok hok
  refine ⟨requests_deliver fed p hdisplay, ?_⟩
  rw [deliver, hstate]
  cases fed.response.isEmpty <;> rfl

theorem receive_of_ok {chunk : Bytes} (hok : ((receive chunk).run p).outcome = .ok ()) :
    let fed := p.session.engine.feed chunk
    requests ((receive chunk).run p).events =
        (switched fed.notes).map .echo ++ .display fed.display ::
          (if fed.response.isEmpty then [] else [.write fed.response]) ∧
      ((feed chunk).run p).outcome = .ok fed ∧
      ((receive chunk).run p).state.session = { p.session with engine := fed.engine } := by
  intro fed
  rw [receive_eq] at hok ⊢
  obtain ⟨fed', hfed, hdeliver, hstate, hevents⟩ := Act.exists_of_bind_ok hok
  obtain rfl : fed' = fed := eq_of_outcome_feed hfed
  obtain ⟨hshown, hsession⟩ := deliver_of_ok hdeliver
  have hfeed := run_feed chunk p
  have hnotes : ((fed.notes.forM perform).run { p with session := { p.session with
      engine := fed.engine } }).outcome = .ok () := by
    rw [hfeed] at hfed
    simp only [Except.map] at hfed
    split at hfed
    · cases hfed
    · assumption
  obtain ⟨hswitched, hengine⟩ := performs_of_ok _ hnotes
  refine ⟨?_, hfed, ?_⟩
  · rw [hevents, requests_append, hshown, hfeed]
    exact congrArg (· ++ _) hswitched
  · rw [hstate, hsession, hfeed]
    exact hengine

end Pump

/-! ### One transfer -/

namespace Iteration

variable {i : Iteration ω}

def slept (i : Iteration ω) : ω :=
  ((Sides.sleep idleInterval : Act Effect ω Unit).run i.polled.state.sides).state

/-- The one transfer of an iteration: what it asks for, and whether it finds that the remote host
closed the connection. -/
inductive Transfers (i : Iteration ω) : List Request → Bool → Prop where
  | line {line : Bytes} (hline : i.line? = some line) :
      Transfers i (.readLine :: if line.isEmpty then [] else [.write line.networkEnds]) false
  | chunk {fed : Fed} (hfed : i.fed? = some fed) :
      Transfers i (.read (Sides.chunk i.polled.state.sides) ::
        ((switched fed.notes).map .echo ++ .display fed.display ::
          if fed.response.isEmpty then [] else [.write fed.response])) false
  | nothing (hready : i.polled.outcome = .ok (some .remote))
      (hread : i.chunkRead.outcome = .ok none) :
      Transfers i [.read (Sides.chunk i.polled.state.sides)] false
  | ended {asked : List Request} {closed : Bool}
      (hready : i.polled.outcome = .ok (some .remote)) (hread : i.chunkRead.outcome = .ok (some []))
      (hlooks : Looks i.chunkRead.state asked closed) :
      Transfers i (.read (Sides.chunk i.polled.state.sides) :: asked) closed
  | idle {asked : List Request} {closed : Bool} (hready : i.polled.outcome = .ok none)
      (hlooks : Looks i.slept asked closed) : Transfers i asked closed

theorem Looks.closed {s : ω} {asked : List Request} (h : Looks s asked true) :
    asked = [.status, .display closedByHost] := by
  obtain ⟨status, -, -, hasked⟩ := h
  exact hasked

/-- If the connection is found closed, the last thing asked for is to tell the user. -/
theorem getLast?_of_transfers {asked : List Request} (h : i.Transfers asked true) :
    asked.getLast? = some (.display closedByHost) := by
  cases h with
  | ended _ _ hlooks =>
    rw [Looks.closed hlooks]
    rfl
  | idle _ hlooks =>
    rw [Looks.closed hlooks]
    rfl

theorem session_polled (i : Iteration ω) : i.polled.state.session = i.before.session := by
  rw [polled, state_wait]

theorem transfers_line (hready : i.polled.outcome = .ok (some .console))
    (hok : (transferLine.run i.polled.state).outcome = .ok ()) :
    ∃ asked, i.Transfers asked false ∧
      requests (transferLine.run i.polled.state).events = asked ∧
      (transferLine.run i.polled.state).state.session = i.polled.state.session := by
  obtain ⟨line, hread, hasked, hsession⟩ := transferLine_of_ok hok
  have hline : i.line? = some line := by
    have hlineRead : i.lineRead.outcome = .ok line := hread
    rw [line?, hready, hlineRead]
    rfl
  exact ⟨_, .line hline, hasked, hsession⟩

theorem transfers_idle (hready : i.polled.outcome = .ok none)
    (hok : ((transfer none).run i.polled.state).outcome = .ok ()) :
    ∃ asked closed, i.Transfers asked closed ∧
      requests ((transfer none).run i.polled.state).events = asked ∧
      ((transfer none).run i.polled.state).state.session =
        i.polled.state.session.after closed := by
  obtain ⟨_, -, halive, hstate, hevents⟩ := Act.exists_of_bind_ok hok
  obtain ⟨asked, closed, hlooks, hasked, hsession⟩ := checkAlive_of_ok halive
  refine ⟨asked, closed, .idle hready hlooks, ?_, ?_⟩
  · rw [transfer, hevents, requests_append, hasked, run_onSides, requests_effects, List.nil_append]
  · rw [transfer, hstate]
    exact hsession

theorem transfers_chunk (hready : i.polled.outcome = .ok (some .remote))
    (hok : (transferChunk.run i.polled.state).outcome = .ok ()) :
    ∃ asked closed engine, i.Transfers asked closed ∧
      requests (transferChunk.run i.polled.state).events = asked ∧
      (transferChunk.run i.polled.state).state.session =
        { i.polled.state.session with engine }.after closed := by
  rw [run_transferChunk] at hok ⊢
  simp only [requests_asked, requests_append, requests_effects, List.nil_append]
  rw [follows] at hok ⊢
  rcases hread : i.chunkRead.outcome with f | _ | _ | ⟨b, chunk⟩
  · rw [hread] at hok
    cases hok
  · exact ⟨_, false, _, .nothing hready hread, rfl, rfl⟩
  · rw [hread] at hok
    obtain ⟨asked, closed, hlooks, hasked, hsession⟩ := checkAlive_of_ok hok
    refine ⟨_, closed, _, .ended hready hread hlooks, ?_, hsession⟩
    exact congrArg _ hasked
  · rw [hread] at hok
    obtain ⟨hasked, hfed, hsession⟩ := receive_of_ok hok
    have hchunk : i.chunk? = some (b :: chunk) := by
      rw [chunk?, hready, hread]
      rfl
    have hfed? : i.fed? = some (i.afterRead.session.engine.feed (b :: chunk)) := by
      rw [fed?, hchunk, Option.bind_some, feeding, hfed]
      rfl
    refine ⟨_, false, _, .chunk hfed?, ?_, hsession⟩
    exact congrArg _ hasked

/-- An iteration in which nothing fails waits and makes one transfer. -/
theorem exists_transfers (hok : i.ran.outcome = .ok ()) :
    ∃ asked closed engine, i.Transfers asked closed ∧
      requests i.ran.events = (if i.poll.interrupts then [.interrupt] else []) ++ asked ∧
      i.ran.state.session = { i.before.session with engine }.after closed := by
  have hwaited : requests i.polled.events = if i.poll.interrupts then [.interrupt] else [] :=
    requests_wait i.poll i.before
  rw [← session_polled i, ← hwaited]
  rw [ran_eq] at hok ⊢
  rcases hready : i.polled.outcome with f | _ | _ | _
  · rw [hready] at hok
    cases hok
  · rw [hready] at hok
    obtain ⟨asked, closed, htransfers, hasked, hsession⟩ := transfers_idle hready hok
    exact ⟨asked, closed, _, htransfers, by rw [requests_append, hasked], hsession⟩
  · rw [hready] at hok
    obtain ⟨asked, htransfers, hasked, hsession⟩ := transfers_line hready hok
    refine ⟨asked, false, _, htransfers, ?_, hsession⟩
    rw [requests_append]
    exact congrArg _ hasked
  · rw [hready] at hok
    obtain ⟨asked, closed, engine, htransfers, hasked, hsession⟩ := transfers_chunk hready hok
    refine ⟨asked, closed, engine, htransfers, ?_, hsession⟩
    rw [requests_append]
    exact congrArg _ hasked

end Iteration

end Telnet
