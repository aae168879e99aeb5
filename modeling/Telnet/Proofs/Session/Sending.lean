import Mathlib.Data.List.Forall2
import Telnet.Proofs.Session.Iteration
import Telnet.Session.Scripted

/-!
# What a session sends

Lines from the console and replies of the engine share one way out. Each iteration sends at most one
of them, and sends it whole (`writes_ran`), so a run sends what its iterations send, in their order.
A line is sent with its line ends translated, which is said byte by byte here (`Bytes.Translates`).
-/

namespace Telnet

namespace Bytes

/-- Each byte 10 of a line becomes the bytes 13 and 10, and every other byte stays. -/
inductive Translates : Bytes → Bytes → Prop where
  | nil : Translates [] []
  | lineFeed {line sent : Bytes} (h : Translates line sent) :
    Translates (10 :: line) (13 :: 10 :: sent)
  | other {b : UInt8} {line sent : Bytes} (hb : b ≠ 10) (h : Translates line sent) :
    Translates (b :: line) (b :: sent)

theorem translates_networkEnds (line : Bytes) : Translates line line.networkEnds := by
  induction line with
  | nil => exact .nil
  | cons b line ih =>
    rw [networkEnds, List.flatMap_cons]
    split
    case isTrue hb =>
      subst hb
      exact .lineFeed ih
    case isFalse hb => exact .other hb ih

theorem eq_networkEnds {line sent : Bytes} (h : Translates line sent) :
    sent = line.networkEnds := by
  induction h with
  | nil => rfl
  | lineFeed h ih =>
    rw [ih]
    rfl
  | other hb h ih =>
    rw [ih, networkEnds, networkEnds, List.flatMap_cons, lineFeed, if_neg hb]
    rfl

/-- What was sent for some lines gives them back. -/
theorem localEnds_of_translates {lines sent : List Bytes}
    (h : List.Forall₂ Translates lines sent) : localEnds sent.flatten = lines.flatten := by
  have hsent : sent = lines.map networkEnds := by
    induction h with
    | nil => rfl
    | cons hline _ ih => rw [List.map_cons, eq_networkEnds hline, ih]
  rw [hsent, networkEnds_flatten, localEnds_networkEnds]

end Bytes

open Pump

variable {ω : Type} [Sides ω]

/-! ### One iteration -/

theorem writes_wait (poll : Poll) (p : Pump ω) : writes ((wait poll).run p).events = [] := by
  rw [writes, requests_wait]
  cases poll.interrupts <;> rfl

theorem writes_checkAlive (p : Pump ω) : writes (checkAlive.run p).events = [] := by
  rw [writes, requests_checkAlive]
  split
  · split <;> rfl
  · rfl

theorem writes_idle (p : Pump ω) : writes ((transfer none).run p).events = [] := by
  rw [transfer, Act.run_bind_eq, run_onSides]
  cases ((Sides.sleep idleInterval : Act Effect ω Unit).run p.sides).outcome with
  | error f => exact writes_effects _
  | ok =>
    simp only [writes_append, writes_effects, List.nil_append]
    exact writes_checkAlive _

theorem writes_cancel (p : Pump ω) : writes (cancel.run p).events = [] := by
  cases h : ((Sides.display [Bytes.lineFeed]).run p.sides).outcome <;>
    simp [cancel, display, writes, Act.run_bind_eq, h, Request.sent?]

theorem writes_transferLine (p : Pump ω) :
    writes (transferLine.run p).events =
      match ((Sides.readLine : Act Effect ω Bytes).run p.sides).outcome with
      | .ok line => if line.isEmpty then [] else [line.networkEnds]
      | .error _ => [] := by
  rw [writes, requests_transferLine]
  cases ((Sides.readLine : Act Effect ω Bytes).run p.sides).outcome with
  | error f => rfl
  | ok line => cases line <;> rfl

theorem writes_deliver (fed : Fed) (p : Pump ω)
    (hdisplay : ((Sides.display fed.display).run p.sides).outcome = .ok ()) :
    writes ((deliver fed).run p).events =
      if fed.response.isEmpty then [] else [fed.response] := by
  rw [writes, requests_deliver fed p hdisplay]
  split <;> rfl

theorem writes_receive (chunk : Bytes) (p : Pump ω)
    (hdisplay : ∀ fed, ((feed chunk).run p).outcome = .ok fed →
      ((Sides.display fed.display).run ((feed chunk).run p).state.sides).outcome = .ok ()) :
    writes ((receive chunk).run p).events =
      match ((feed chunk).run p).outcome with
      | .ok fed => if fed.response.isEmpty then [] else [fed.response]
      | .error _ => [] := by
  rw [receive_eq, Act.run_bind_eq]
  cases hfeed : ((feed chunk).run p).outcome with
  | error f => exact writes_feed chunk p
  | ok fed =>
    simp only [writes_append]
    rw [writes_feed, List.nil_append, writes_deliver _ _ (hdisplay fed hfeed)]

namespace Iteration

variable {i : Iteration ω}

theorem writes_chunk (hremote : i.polled.outcome = .ok (some .remote)) (hdisplays : i.Displays) :
    writes (transferChunk.run i.polled.state).events =
      match i.fed? with
      | some fed => if fed.response.isEmpty then [] else [fed.response]
      | none => [] := by
  rw [run_transferChunk]
  simp only [writes_asked, Request.sent?, Option.toList_none, List.nil_append, writes_append,
    writes_effects]
  rw [follows]
  cases hread : i.chunkRead.outcome with
  | error f => simp [fed?, chunk?, hremote, hread]
  | ok chunk =>
    rcases chunk with _ | _ | ⟨b, chunk⟩
    · simp [fed?, chunk?, hremote, hread]
    · simpa [fed?, chunk?, hremote, hread] using writes_checkAlive _
    · -- Only a chunk with something in it comes to the engine.
      have hchunk : i.chunk? = some (b :: chunk) := by simp [chunk?, hremote, hread]
      rw [fed?, hchunk, Option.bind_some, feeding]
      refine (writes_receive (b :: chunk) i.afterRead fun fed => hdisplays _ fed hchunk).trans ?_
      cases ((feed (b :: chunk)).run i.afterRead).outcome <;> rfl

/-- A line that is not empty is sent translated, a reply that is not empty as it is, and nothing is
sent without either of them. -/
theorem sends_spec (i : Iteration ω) :
    (∀ line, i.line? = some line →
      line = [] ∧ i.sends = [] ∨ line ≠ [] ∧ ∃ sent, line.Translates sent ∧ i.sends = [sent]) ∧
    (∀ fed, i.fed? = some fed → i.sends = if fed.response = [] then [] else [fed.response]) ∧
    (i.line? = none → i.fed? = none → i.sends = []) := by
  refine ⟨fun line hline => ?_, fun fed hfed => ?_, fun hline hfed => ?_⟩
  · rw [sends, hline]
    cases line with
    | nil => exact .inl ⟨rfl, rfl⟩
    | cons b line => exact .inr ⟨List.cons_ne_nil b line, _, Bytes.translates_networkEnds _, rfl⟩
  · -- Only an iteration in which the remote host is ready feeds the engine.
    have hline : i.line? = none := by
      obtain ⟨chunk, hchunk, -⟩ := exists_of_fed? hfed
      unfold chunk? at hchunk
      split at hchunk
      case h_1 hpolled _ => rw [line?, hpolled]
      case h_2 => cases hchunk
    rw [sends, hline, hfed]
    simp only [List.isEmpty_iff]
  · rw [sends, hline, hfed]

/-- Each iteration sends its line or its reply, whole, or nothing. -/
theorem writes_ran (hdisplays : i.Displays) : writes i.ran.events = i.sends := by
  have hwait : writes i.polled.events = [] := writes_wait i.poll i.before
  rw [ran_eq]
  cases hpolled : i.polled.outcome with
  | error f =>
    rw [sends, line?, fed?, chunk?, hpolled]
    exact hwait
  | ok ready =>
    simp only [writes_append, hwait, List.nil_append]
    rcases ready with _ | _ | _
    · rw [sends, line?, fed?, chunk?, hpolled]
      exact writes_idle _
    · rw [sends, line?, fed?, chunk?, hpolled]
      refine (writes_transferLine _).trans ?_
      rw [← lineRead]
      cases i.lineRead.outcome <;> rfl
    · refine (writes_chunk hpolled hdisplays).trans ?_
      rw [sends, line?, hpolled]
      cases i.fed? <;> rfl

end Iteration

/-! ### A run -/

/-- After each iteration a run has sent, in the order of its iterations, each line with its line
ends translated and each reply, whole, and nothing else; it ends without sending more. On the way
no byte of a line is lost. -/
theorem writes_run (p : Pump ω) (hdisplays : ∀ i ∈ iterations p.polls p, i.Displays) :
    (∃ ending, ((run : Act Event (Pump ω) Unit).run p).events =
        ((iterations p.polls p).flatMap fun i => i.ran.events) ++ ending ∧ writes ending = []) ∧
      (∀ n, writes (((iterations p.polls p).take n).flatMap fun i => i.ran.events) =
        ((iterations p.polls p).take n).flatMap Iteration.sends) ∧
      (∀ i ∈ iterations p.polls p,
        (∀ line, i.line? = some line →
          line = [] ∧ i.sends = [] ∨
            line ≠ [] ∧ ∃ sent, line.Translates sent ∧ i.sends = [sent]) ∧
        (∀ fed, i.fed? = some fed →
          i.sends = if fed.response = [] then [] else [fed.response]) ∧
        (i.line? = none → i.fed? = none → i.sends = [])) ∧
      (∀ i ∈ iterations p.polls p, ∀ fed, i.fed? = some fed →
        ∃ chunk, i.chunk? = some chunk ∧ fed = i.before.session.engine.feed chunk) ∧
      (∀ lines sent : List Bytes, List.Forall₂ Bytes.Translates lines sent →
        Bytes.localEnds sent.flatten = lines.flatten) := by
  refine ⟨?_, ?_, fun i _ => i.sends_spec, fun i _ fed => Iteration.exists_of_fed?,
    fun lines sent => Bytes.localEnds_of_translates⟩
  · obtain ⟨ending, hevents, hending⟩ := events_run p
    refine ⟨ending, hevents, ?_⟩
    rcases hending with rfl | ⟨q, rfl⟩
    · rfl
    · rw [run_finish]
      split
      · exact writes_cancel q
      · rfl
  · intro n
    rw [writes_flatMap]
    have hran := fun i hi => Iteration.writes_ran (hdisplays i (List.mem_of_mem_take (i := n) hi))
    rw [List.flatMap_def, List.flatMap_def, List.map_congr_left hran]

/-- A reply, and the line "ls" behind it. -/
theorem writes_run_reply_and_line :
    let script : Script :=
      ⟨[[108, 115, 10]], none, [], 1500, [.chunk [255, 251, 1, 62]], [], none, false, false⟩
    let p : Pump Script := { start "log" .endless .standard (.v4 7) 23
        [⟨false, .ok (some .remote)⟩, ⟨false, .ok (some .console)⟩] script with
      session := Session.become (.start (.v4 7) 23 .standard) .active }
    (∀ i ∈ iterations p.polls p, i.Displays) ∧
      writes (((iterations p.polls p).take 2).flatMap fun i => i.ran.events) =
        [[255, 253, 1], [108, 115, 13, 10]] := by
  intro script p
  have hdisplays : ∀ i ∈ iterations p.polls p, i.Displays := fun _ _ _ _ _ _ => rfl
  refine ⟨hdisplays, ?_⟩
  rw [(writes_run p hdisplays).2.1 2]
  rfl

end Telnet
