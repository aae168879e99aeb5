import Telnet.Proofs.Connection.Ordinary
import Telnet.Proofs.Connection.Stream

/-!
# A connection from its opening to its closing

To connect reports every error number as an error of the client, but it passes a failure to wait on
as it is (`connect_reports`). Whatever is called on a connection, its status never says that
something may be received unless it was connected, and closing it is the last thing that is done to
its socket (`status_ordered_until_closed`).
-/

namespace Telnet

/-! ### The bits of a status -/

namespace Status

/-- What the bits of a status say goes together. -/
structure Ordered (s : Status) : Prop where
  isOpen : s.has .open_ = true
  mayReceive_of_canReceive : s.has .canReceive = true → s.has .mayReceive = true
  active_of_mayReceive : s.has .mayReceive = true → s.has .active = true ∧ s.has .maySend = true
  active_iff : s.has .active = true ↔ s.has .maySend = true
  not_listening : s.has .listening = false
  not_canSend : s.has .canSend = false

theorem ordered_unconnected : unconnected.Ordered := by
  constructor <;> decide

theorem ordered_ended : ended.Ordered := by
  constructor <;> decide

theorem ordered_quiet : quiet.Ordered := by
  constructor <;> decide

theorem ordered_waiting : waiting.Ordered := by
  constructor <;> decide

end Status

namespace Link

variable {l : Link}

/-! ### Connecting -/

/-- A connection is connected exactly if the attempt succeeds, at once or after waiting. An error
number is reported with the address and the port, unless no error can have it; a failure to wait is
not reported in this way. -/
theorem connect_reports (l : Link) (address : Address) (port : Int) (hopen : l.isOpen = true)
    (hnew : l.connected = false) :
    let s := l.socket
    let wait := (Socket.waitWritable.run s).outcome
    let r := (connect address port).run l
    (r.outcome = .ok () ↔ s.connectResult = 0 ∨
      s.connectResult ∈ inProgress ∧ wait = .ok () ∧ s.pendingError = 0) ∧
    (r.state.connected = true ↔ r.outcome = .ok ()) ∧
    (s.connectResult ∉ inProgress → s.connectResult ≠ 0 →
      r.outcome = .error (refusal address port s.connectResult)) ∧
    (s.connectResult ∈ inProgress → wait = .ok () → s.pendingError ≠ 0 →
      r.outcome = .error (refusal address port s.pendingError)) ∧
    (∀ error, Failure.IsErrorNumber error → refusal address port error =
      .client (.connection (.text address.text) (.number port) (.text (errorText error)))) ∧
    ∀ f, s.connectResult ∈ inProgress → wait = .error f → r.outcome = .error f := by
  intro s wait r
  have houtcome : r.outcome = _ := outcome_connect_eq address port hopen
  have hconnected := connected_connect address port l
  refine ⟨connect_ok_iff address port hopen, ?_, ?_, ?_, fun _ => refusal_of_isErrorNumber, ?_⟩
  · simpa [hnew] using hconnected
  · intro hstarted hnonzero
    have hverdict : s.verdict = .ok s.connectResult :=
      Socket.verdict_ok_iff.2 (.inl ⟨hstarted, rfl⟩)
    rw [houtcome, hverdict]
    simp only [if_neg hnonzero]
  · intro hstarted hwait hnonzero
    have hverdict : s.verdict = .ok s.pendingError :=
      Socket.verdict_ok_iff.2 (.inr ⟨hstarted, hwait, rfl⟩)
    rw [houtcome, hverdict]
    simp only [if_neg hnonzero]
  · intro f hstarted hwait
    have hverdict : s.verdict = .error f := Socket.verdict_error_iff.2 ⟨hstarted, hwait⟩
    rw [houtcome, hverdict]

theorem connect_reports_refused_later :
    let l := fresh 1500 { Socket.silent with connectResult := 115, pendingError := 111 }
    l.isOpen = true ∧ l.connected = false ∧
      ((connect (.v4 3221225991) 23).run l).outcome = .error (.client
        (.connection (.text "192.0.2.7") (.number 23) (.text "Connection refused"))) := by
  intro l
  obtain ⟨-, -, -, hlater, hrefusal, -⟩ := connect_reports l (.v4 3221225991) 23 rfl rfl
  have hrefused := hlater (by decide) rfl (by decide)
  have hnumber : Failure.IsErrorNumber 111 := ⟨by decide, by decide⟩
  exact ⟨rfl, rfl, hrefused.trans (congrArg Except.error (hrefusal 111 hnumber))⟩

/-- A connection that is reset while it waits to be connected fails with the failure of the system.
-/
theorem connect_reset_while_waiting :
    let reset : SystemError := ⟨.reset, [.number 104, .text "Connection reset by peer"]⟩
    let l := fresh 1500 { Socket.silent with connectResult := 115, waits := [some (.system reset)] }
    let r := (connect (.v4 3221225991) 23).run l
    l.isOpen = true ∧ l.connected = false ∧ r.outcome = .error (.system reset) ∧
      ¬∃ reason, r.outcome = .error (.client
        (.connection (.text "192.0.2.7") (.number 23) reason)) := by
  intro reset l r
  have herror : r.outcome = .error (.system reset) := rfl
  refine ⟨rfl, rfl, herror, ?_⟩
  rintro ⟨reason, hclient⟩
  rw [herror] at hclient
  cases hclient

/-! ### Calls -/

inductive Method where
  | connect (address : Address) (port : Int)
  | read (limit : Option Nat)
  | write (bytes : Bytes)
  | status
  | close
  | number
  deriving DecidableEq, Repr

inductive Reply where
  | done
  | chunk (bytes : Option Bytes)
  | status (s : Option Status)
  | number (n : Nat)
  deriving DecidableEq, Repr

def invoke : Method → Act Effect Link Reply
  | .connect address port => (fun _ => .done) <$> Link.connect address port
  | .read limit => Reply.chunk <$> Link.read limit
  | .write bytes => (fun _ => .done) <$> Link.write bytes
  | .status => Reply.status <$> Link.status
  | .close => (fun _ => .done) <$> Link.close
  | .number => Reply.number <$> Link.number

/-- What a call on a closed connection comes to. -/
def Method.onceClosed : Method → Except Failure Reply
  | .connect _ _ | .number => .error .absentPart
  | .read _ => .ok (.chunk none)
  | .status => .ok (.status none)
  | .write _ | .close => .ok .done

def afterCalls (l : Link) : List Method → Link
  | [] => l
  | m :: calls => ((invoke m).run l).state.afterCalls calls

def trace (l : Link) : List Method → List Effect
  | [] => []
  | m :: calls => ((invoke m).run l).events ++ ((invoke m).run l).state.trace calls

end Link

def Effect.OfClosing (e : Effect) : Prop := e = .closing ∨ e = .closed

namespace Link

variable {l : Link} {m : Method} {calls : List Method}

theorem isOpen_invoke (hm : m ≠ .close) (l : Link) :
    ((invoke m).run l).state.isOpen = l.isOpen ∧
      ∀ e ∈ ((invoke m).run l).events, ¬e.OfClosing := by
  have htraffic : ∀ e : Effect, e.OfTraffic → ¬e.OfClosing := by
    rintro e he (rfl | rfl) <;> exact he
  have hattempt : ∀ e : Effect, e.OfAttempt → ¬e.OfClosing := by
    rintro e he (rfl | rfl) <;> exact he
  cases m with
  | connect address port =>
    obtain ⟨hsame, hevents⟩ := staysOpen_connect address port l.isOpen l rfl
    simp only [invoke, Act.run_map]
    exact ⟨hsame, fun e he => hattempt e (hevents e he)⟩
  | read limit =>
    obtain ⟨hsame, hevents⟩ := staysOpen_read limit l.isOpen l rfl
    simp only [invoke, Act.run_map]
    exact ⟨hsame, fun e he => htraffic e (hevents e he)⟩
  | write bytes =>
    obtain ⟨hsame, hevents⟩ := staysOpen_write bytes l.isOpen l rfl
    simp only [invoke, Act.run_map]
    exact ⟨hsame, fun e he => htraffic e (hevents e he)⟩
  | status =>
    obtain ⟨hsame, hevents⟩ := staysOpen_status l.isOpen l rfl
    simp only [invoke, Act.run_map]
    exact ⟨hsame, fun e he => htraffic e (hevents e he)⟩
  | close => exact absurd rfl hm
  | number =>
    cases hopen : l.isOpen <;> simp [invoke, number, Act.run_bind_eq, hopen]

theorem run_invoke_close (l : Link) :
    (invoke .close).run l = ⟨.ok .done, { l with isOpen := false },
      if l.isOpen then [.closing, .closed] else []⟩ := by
  simp only [invoke, Act.run_map, run_close]
  rfl

/-- A call connects a connection only as an attempt to connect that succeeds. -/
theorem connected_invoke (h : ((invoke m).run l).state.connected = true) :
    l.connected = true ∨ ∃ address port, m = .connect address port ∧
      ((connect address port).run l).outcome = .ok () := by
  have hframed := framed_connected l.connected
  cases m with
  | connect address port =>
    simp only [invoke, Act.run_map] at h
    rcases (connected_connect address port l).1 h with hold | hok
    · exact .inl hold
    · exact .inr ⟨address, port, rfl, hok⟩
  | read limit =>
    simp only [invoke, Act.run_map] at h
    have hsame := (hframed.leads_read limit l rfl).1
    exact .inl (hsame ▸ h)
  | write bytes =>
    simp only [invoke, Act.run_map] at h
    have hsame := (hframed.leads_write bytes l rfl).1
    exact .inl (hsame ▸ h)
  | status =>
    simp only [invoke, Act.run_map] at h
    have hsame := (hframed.leads_status l rfl).1
    exact .inl (hsame ▸ h)
  | close =>
    rw [run_invoke_close] at h
    exact .inl h
  | number =>
    left
    cases hopen : l.isOpen <;> simpa [invoke, number, Act.run_bind_eq, hopen] using h

theorem run_invoke_closed (h : l.isOpen = false) (m : Method) :
    (invoke m).run l = ⟨m.onceClosed, l, []⟩ := by
  cases m <;>
    simp [invoke, connect, read, write, status, close, number, Act.run_bind_eq, h,
      Method.onceClosed, Except.map]

/-! ### Runs of calls -/

theorem isOpen_afterCalls (l : Link) (calls : List Method) :
    (l.afterCalls calls).isOpen = true ↔ l.isOpen = true ∧ Method.close ∉ calls := by
  induction calls generalizing l with
  | nil => simp [afterCalls]
  | cons m calls ih =>
    rw [afterCalls, ih]
    by_cases hm : m = .close
    · simp [hm, run_invoke_close]
    · have hsame := (isOpen_invoke hm l).1
      have hother : Method.close ≠ m := fun h => hm h.symm
      simp [hsame, hother]

theorem connected_afterCalls (h : (l.afterCalls calls).connected = true) :
    l.connected = true ∨ ∃ before address port later,
      calls = before ++ .connect address port :: later ∧
        ((connect address port).run (l.afterCalls before)).outcome = .ok () := by
  induction calls generalizing l with
  | nil => exact .inl h
  | cons m calls ih =>
    rcases ih h with hnow | ⟨before, address, port, later, rfl, hok⟩
    · rcases connected_invoke hnow with hold | ⟨address, port, rfl, hok⟩
      · exact .inl hold
      · exact .inr ⟨[], address, port, calls, rfl, hok⟩
    · exact .inr ⟨m :: before, address, port, later, rfl, hok⟩

theorem afterCalls_closed (h : l.isOpen = false) (calls : List Method) :
    l.trace calls = [] ∧ l.afterCalls calls = l := by
  induction calls with
  | nil => exact ⟨rfl, rfl⟩
  | cons m calls ih =>
    rw [trace, afterCalls, run_invoke_closed h]
    exact ih

theorem trace_open (l : Link) (h : Method.close ∉ calls) : ∀ e ∈ l.trace calls, ¬e.OfClosing := by
  induction calls generalizing l with
  | nil =>
    intro e he
    cases he
  | cons m calls ih =>
    have hm : m ≠ .close := fun heq => h (by simp [heq])
    have hrest : Method.close ∉ calls := fun hmem => h (List.mem_cons_of_mem m hmem)
    intro e he
    rcases List.mem_append.1 he with hnow | hlater
    · exact (isOpen_invoke hm l).2 e hnow
    · exact ih _ hrest e hlater

theorem trace_closing (hopen : l.isOpen = true) (h : Method.close ∈ calls) :
    ∃ before, l.trace calls = before ++ [.closing, .closed] ∧ ∀ e ∈ before, ¬e.OfClosing := by
  induction calls generalizing l with
  | nil => cases h
  | cons m calls ih =>
    by_cases hm : m = .close
    · subst hm
      have hnothing := (afterCalls_closed (l := { l with isOpen := false }) rfl calls).1
      refine ⟨[], ?_, fun e he => by cases he⟩
      rw [trace, run_invoke_close, if_pos hopen, hnothing]
      rfl
    · obtain ⟨hsame, hevents⟩ := isOpen_invoke hm l
      have hrest : Method.close ∈ calls :=
        (List.mem_cons.1 h).resolve_left fun heq => hm heq.symm
      obtain ⟨before, htrace, hbefore⟩ := ih (hsame.trans hopen) hrest
      refine ⟨((invoke m).run l).events ++ before, ?_, ?_⟩
      · rw [trace, htrace, List.append_assoc]
      · intro e he
        rcases List.mem_append.1 he with hnow | hlater
        · exact hevents e hnow
        · exact hbefore e hlater

/-! ### The status -/

/-- What the status of an open connection may be. -/
theorem outcome_status (hopen : l.isOpen = true) :
    (∃ f, (status.run l).outcome = .error f) ∨
      (status.run l).outcome = .ok (some .unconnected) ∨
      l.connected = true ∧ ∃ s ∈ [Status.ended, Status.quiet, Status.waiting],
        (status.run l).outcome = .ok (some s) := by
  cases hconnected : l.connected with
  | false => simp [status, Act.run_bind_eq, hopen, hconnected]
  | true =>
    cases hended : l.ended with
    | true =>
      obtain ⟨-, houtcome⟩ := run_status_ended hopen hconnected hended
      exact .inr (.inr ⟨rfl, _, by simp, houtcome⟩)
    | false =>
      obtain ⟨-, houtcome⟩ := run_status hopen hconnected hended
      rw [houtcome]
      cases (Socket.peek l.socket.arrivals).1 with
      | bytes b => cases b <;> simp
      | blocked => simp
      | failed f =>
        cases f with
        | system e => by_cases hkind : e.kind = .wouldBlock <;> simp [hkind]
        | _ => simp

theorem status_none_iff : (status.run l).outcome = .ok none ↔ l.isOpen = false := by
  cases hopen : l.isOpen with
  | false => simp [status, Act.run_bind_eq, hopen]
  | true =>
    rcases outcome_status hopen with ⟨f, houtcome⟩ | houtcome | ⟨-, s, -, houtcome⟩ <;>
      simp [houtcome]

theorem ordered_status {s : Status} (h : (status.run l).outcome = .ok (some s)) :
    s.Ordered ∧ (s.has .mayReceive = true → l.connected = true) := by
  have hopen : l.isOpen = true := by
    cases hopen : l.isOpen with
    | false =>
      rw [status_none_iff.2 hopen] at h
      cases h
    | true => rfl
  rcases outcome_status hopen with ⟨f, houtcome⟩ | houtcome | ⟨hconnected, s', hs', houtcome⟩
  · rw [houtcome] at h
    cases h
  · rw [houtcome] at h
    cases h
    exact ⟨Status.ordered_unconnected, fun hmay => absurd hmay (by decide)⟩
  · rw [houtcome] at h
    cases h
    refine ⟨?_, fun _ => hconnected⟩
    simp only [List.mem_cons, List.not_mem_nil, or_false] at hs'
    rcases hs' with rfl | rfl | rfl
    · exact Status.ordered_ended
    · exact Status.ordered_quiet
    · exact Status.ordered_waiting

/-- After any calls on a connection that was opened, its status is in order, says that something may
be received only if an attempt to connect succeeded before, and is absent exactly if the connection
was closed. Once it was closed, a call does nothing more, and all that was done to close the socket
is one notice with the closing right after it. -/
theorem status_ordered_until_closed (chunk : Nat) (socket : Socket) (calls : List Method) :
    let opened := fresh chunk socket
    let l := opened.afterCalls calls
    (∀ s, (status.run l).outcome = .ok (some s) → s.Ordered ∧
      (s.has .mayReceive = true → ∃ before address port later,
        calls = before ++ .connect address port :: later ∧
          ((connect address port).run (opened.afterCalls before)).outcome = .ok ())) ∧
    ((status.run l).outcome = .ok none ↔ Method.close ∈ calls) ∧
    (Method.close ∈ calls →
      (∀ m, ((invoke m).run l).outcome = m.onceClosed) ∧
      (∀ more, l.trace more = [] ∧ l.afterCalls more = l) ∧
      ∃ before, opened.trace calls = before ++ [.closing, .closed] ∧
        ∀ e ∈ before, ¬e.OfClosing) ∧
    (Method.close ∉ calls → ∀ e ∈ opened.trace calls, ¬e.OfClosing) := by
  intro opened l
  have hopen : l.isOpen = true ↔ Method.close ∉ calls := by
    rw [isOpen_afterCalls]
    exact and_iff_right rfl
  have hclosed : l.isOpen = false ↔ Method.close ∈ calls := by
    rw [← Bool.not_eq_true, hopen, Classical.not_not]
  refine ⟨?_, status_none_iff.trans hclosed, ?_, trace_open opened⟩
  · intro s hs
    obtain ⟨hordered, hconnected⟩ := ordered_status hs
    refine ⟨hordered, fun hmay => ?_⟩
    rcases connected_afterCalls (hconnected hmay) with hnow | hearlier
    · cases hnow
    · exact hearlier
  · intro hmem
    have hdone := hclosed.2 hmem
    refine ⟨fun m => ?_, afterCalls_closed hdone, trace_closing rfl hmem⟩
    rw [run_invoke_closed hdone]

end Link

end Telnet
