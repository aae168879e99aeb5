import Telnet.Proofs.Client.Resolving
import Telnet.Proofs.Session.Socket

/-!
# The socket of a client

A client makes no more than one socket, only for an address that it has found, and once it has made
one it closes it, whatever happens (`run_closes_socket`).
-/

namespace Telnet

namespace Effect

def creates : Effect → Bool
  | .created _ => true
  | _ => false

def connects : Effect → Bool
  | .connecting _ _ => true
  | _ => false

/-- Bytes are received or sent, or would be if the socket took them. -/
def transfers : Effect → Bool
  | .receive _ _ | .sent _ | .sendBlocked | .sendFailed => true
  | _ => false

end Effect

namespace Socket

variable {s : Socket} {address : Address} {port : Int} {calls : List Effect}

theorem eq_of_mem_attempt {e : Effect} (h : e ∈ s.attempt address port) :
    e = .connecting address.text port ∨ e = .waitWritable ∨ e = .errorRead := by
  rcases List.mem_cons.1 h with rfl | h
  · exact .inl rfl
  · right
    by_cases hstarted : s.connectResult ∈ inProgress
    · rw [if_pos hstarted, settling] at h
      rcases List.mem_cons.1 h with rfl | h
      · exact .inl rfl
      · cases hwait : (waitWritable.run s).outcome <;> simp [hwait] at h
        exact .inr h
    · rw [if_neg hstarted] at h
      cases h

/-- Of what is done to a socket only its making and the attempt to connect it are no matter of
routine. -/
structure Routine (p : Effect → Bool) : Prop where
  unblocked : p .unblocked = false
  errorRead : p .errorRead = false
  closing : p .closing = false
  closed : p .closed = false
  traffic : ∀ e : Effect, e.OfTraffic → p e = false

theorem countP_attempt {p : Effect → Bool} (hp : Routine p) :
    (s.attempt address port).countP p = if p (.connecting address.text port) then 1 else 0 := by
  have hwait : p .waitWritable = false := hp.traffic _ trivial
  unfold attempt settling
  rw [List.countP_cons]
  split
  · cases (waitWritable.run s).outcome <;> simp [hwait, hp.errorRead]
  · simp

theorem Used.countP_le (h : s.Used address port calls) {p : Effect → Bool} (hp : Routine p) :
    calls.countP p ≤ (if p (.created address.family) then 1 else 0) +
      if p (.connecting address.text port) then 1 else 0 := by
  have hattempt : (s.attempt address port).countP p = _ := countP_attempt hp
  have hend : List.countP p [.closing, .closed] = 0 := by
    simp [hp.closing, hp.closed]
  cases h with
  | refused =>
    rw [List.countP_cons, List.countP_nil]
    omega
  | unconnected tried _ htried =>
    simp only [List.countP_cons, List.countP_append, hp.unblocked, hend, Bool.false_eq_true,
      if_false]
    rcases htried with rfl | rfl
    · rw [List.countP_nil]
      omega
    · rw [hattempt]
      omega
  | connected traffic _ _ htraffic =>
    have hnone : traffic.countP p = 0 := by
      rw [List.countP_eq_zero]
      intro e he
      simp [hp.traffic e (htraffic e he)]
    simp only [List.countP_cons, List.countP_append, hp.unblocked, hend, hattempt, hnone,
      Bool.false_eq_true, if_false]
    omega

theorem Used.family (h : s.Used address port calls) {family : Family}
    (hmem : .created family ∈ calls) : family = address.family := by
  have htried : ∀ tried, (tried = [] ∨ tried = s.attempt address port) →
      .created family ∉ tried := by
    rintro tried (rfl | rfl) hmem
    · cases hmem
    · rcases eq_of_mem_attempt hmem with h | h | h <;> cases h
  cases h with
  | refused => simpa using hmem
  | unconnected tried _ h => simpa [htried tried h] using hmem
  | connected traffic _ _ htraffic =>
    have hnone : .created family ∉ traffic := fun hmem => htraffic _ hmem
    simpa [htried _ (.inr rfl), hnone] using hmem

theorem routine_creates : Routine Effect.creates where
  unblocked := rfl
  errorRead := rfl
  closing := rfl
  closed := rfl
  traffic e he := by
    cases e with
    | created => exact he.elim
    | _ => rfl

theorem routine_connects : Routine Effect.connects where
  unblocked := rfl
  errorRead := rfl
  closing := rfl
  closed := rfl
  traffic e he := by
    cases e with
    | connecting => exact he.elim
    | _ => rfl

/-- What is no part of a start comes after all of it. -/
theorem prefix_of_append_cons {α : Type} {before after start rest : List α} {a : α}
    (h : before ++ a :: after = start ++ rest) (ha : a ∉ start) : start <+: before := by
  rcases List.append_eq_append_iff.1 h with ⟨more, hstart, hrest⟩ | ⟨more, rfl, -⟩
  · cases more with
    | nil =>
      have hsame : start = before := hstart.trans (List.append_nil before)
      exact ⟨[], by rw [hsame, List.append_nil]⟩
    | cons b more =>
      obtain ⟨rfl, -⟩ := List.cons.inj hrest
      refine absurd ?_ ha
      rw [hstart]
      exact List.mem_append_right before List.mem_cons_self
  · exact List.prefix_append _ _

theorem not_transfers_attempt {e : Effect} (h : e ∈ s.attempt address port) :
    e.transfers = false := by
  rcases eq_of_mem_attempt h with rfl | rfl | rfl <;> rfl

/-- Nothing is received or sent before the attempt to connect has succeeded. -/
theorem Used.connects_before (h : s.Used address port calls) {before after : List Effect}
    {e : Effect} (hcalls : calls = before ++ e :: after) (he : e.transfers = true) :
    s.Connects ∧
      .created address.family :: .unblocked :: s.attempt address port <+: before := by
  have hmem : e ∈ calls := by
    rw [hcalls]
    exact List.mem_append_right before List.mem_cons_self
  cases h with
  | refused =>
    obtain rfl := List.mem_singleton.1 hmem
    cases he
  | unconnected tried _ htried =>
    have hnot : e ∉ tried := by
      intro hmem
      rcases htried with rfl | rfl
      · cases hmem
      · rw [not_transfers_attempt hmem] at he
        cases he
    simp only [List.mem_cons, List.mem_append, hnot, List.not_mem_nil, or_false, false_or] at hmem
    rcases hmem with rfl | rfl | rfl | rfl <;> cases he
  | connected traffic _ hconnects _ =>
    have hstart : before ++ e :: after =
        (.created address.family :: .unblocked :: s.attempt address port) ++
          (traffic ++ [.closing, .closed]) := by
      rw [← hcalls, List.cons_append, List.cons_append]
    refine ⟨hconnects, prefix_of_append_cons hstart ?_⟩
    · intro hmem
      simp only [List.mem_cons] at hmem
      rcases hmem with rfl | rfl | hmem
      · cases he
      · cases he
      · rw [not_transfers_attempt hmem] at he
        cases he

/-- What was opened is closed, once and last. -/
theorem Used.closed (h : s.Used address port calls) (hopen : s.openFailure = none) :
    ∃ others, calls = others ++ [.closing, .closed] ∧ .closing ∉ others ∧ .closed ∉ others := by
  have htried : ∀ tried, (tried = [] ∨ tried = s.attempt address port) →
      .closing ∉ tried ∧ .closed ∉ tried := by
    rintro tried (rfl | rfl)
    · exact ⟨List.not_mem_nil, List.not_mem_nil⟩
    · constructor <;>
      · intro hmem
        rcases eq_of_mem_attempt hmem with h | h | h <;> cases h
  cases h with
  | refused hrefused => exact absurd hopen hrefused
  | unconnected tried _ h =>
    obtain ⟨hclosing, hclosed⟩ := htried tried h
    refine ⟨.created address.family :: .unblocked :: tried, rfl, ?_, ?_⟩
    · simp [hclosing]
    · simp [hclosed]
  | connected traffic _ _ htraffic =>
    obtain ⟨hclosing, hclosed⟩ := htried _ (.inr rfl)
    have hclosing' : .closing ∉ traffic := fun hmem => htraffic _ hmem
    have hclosed' : .closed ∉ traffic := fun hmem => htraffic _ hmem
    refine ⟨.created address.family :: .unblocked :: (s.attempt address port ++ traffic), ?_, ?_,
      ?_⟩
    · simp only [List.cons_append, List.append_assoc]
    · simp [hclosing, hclosing']
    · simp [hclosed, hclosed']

end Socket

namespace Call

theorem socketCalls_destination (call : Call) (s : Surroundings) :
    socketCalls (call.destination.run s).events = [] := by
  obtain ⟨-, hevents⟩ := call.leads_destination (P := fun _ => True)
    (E := Event.Only Effect.OfResolution) (fun e he f hf => by cases hf; exact he) s trivial
  refine List.filter_eq_nil_iff.2 fun e he => ?_
  have hresolution := hevents _ (mem_effectsOf.1 he) e rfl
  cases e <;> first | exact hresolution.elim | exact Bool.false_ne_true

theorem used_visit (call : Call) (destination : Endpoint × Address) (s : Surroundings) :
    let events := ((call.visit destination).run s).events
    socketCalls events = [] ∨
      s.network.nextSocket.Used destination.2 destination.1.port (socketCalls events) ∧
        (s.network.nextSocket.openFailure = none → EndsClosed events) := by
  intro events
  obtain ⟨endpoint, address⟩ := destination
  cases hterm : call.term with
  | error f =>
    left
    simp [events, visit, Act.run_bind_eq, hterm, socketCalls]
  | ok term =>
    right
    obtain ⟨hused, hends⟩ := Pump.used_conduct
      (.start Log.clientLogger call.limit term address endpoint.port call.polls s)
    have hevents : ∃ record, events = [.effect (.logged record)] ++
        (Pump.conduct.run (.outside, .start Log.clientLogger call.limit term address
          endpoint.port call.polls s)).events := by
      refine ⟨.debug Log.clientLogger .connecting [.words "Connecting to ", .plain endpoint.datum,
        .words " (", .plain address.datum, .words ")"], ?_⟩
      simp only [events, visit, Act.run_bind_eq, hterm]
      rfl
    obtain ⟨record, hevents⟩ := hevents
    rw [hevents]
    exact ⟨hused, fun hopen => (hends hopen).append_left _⟩

theorem used_run (call : Call) (s : Surroundings) :
    let r := call.run.run s
    let found := call.destination.run s
    socketCalls r.events = [] ∨ ∃ endpoint address later, found.outcome = .ok (endpoint, address) ∧
      r.events = found.events ++ later ∧
      s.network.nextSocket.Used address endpoint.port (socketCalls r.events) ∧
      (s.network.nextSocket.openFailure = none → EndsClosed r.events) := by
  intro r found
  have hbefore : socketCalls found.events = [] := call.socketCalls_destination s
  have hr : r = (call.destination >>= call.visit).run s := by rw [← run_eq]
  rw [Act.run_bind_eq, call.state_destination] at hr
  cases hfound : (call.destination.run s).outcome with
  | error f =>
    rw [hfound] at hr
    rw [hr]
    exact .inl hbefore
  | ok destination =>
    rw [hfound] at hr
    rw [hr, socketCalls_append, hbefore, List.nil_append]
    rcases call.used_visit destination s with hnone | ⟨hused, hends⟩
    · exact .inl hnone
    · exact .inr ⟨destination.1, destination.2, _, rfl, rfl, hused,
        fun hopen => (hends hopen).append_left _⟩

/-- A client makes at most one socket, and only for the address that it found; it tries to connect
it at most once, receives and sends only after that has succeeded, and closes it in the end, once
and with nothing after that, whether it ends well or with a failure. -/
theorem run_closes_socket (call : Call) (s : Surroundings) :
    let r := call.run.run s
    let calls := socketCalls r.events
    let socket := s.network.nextSocket
    let found := call.destination.run s
    calls.countP Effect.creates ≤ 1 ∧
      (∀ family, .created family ∈ calls → ∃ endpoint address later,
        found.outcome = .ok (endpoint, address) ∧ family = address.family ∧
        (family = .inet6 ↔ address.version = 6) ∧
        r.events = found.events ++ later ∧ socketCalls found.events = []) ∧
      calls.countP Effect.connects ≤ 1 ∧
      (∀ before e after, calls = before ++ e :: after → e.transfers = true →
        socket.Connects ∧ ∃ endpoint address, found.outcome = .ok (endpoint, address) ∧
          .created address.family :: .unblocked :: socket.attempt address endpoint.port
            <+: before) ∧
      (∀ family, .created family ∈ calls → socket.openFailure = none →
        ∃ before after, r.events = before ++ .effect .closing :: .effect .closed :: after ∧
          .closing ∉ effectsOf before ∧ .closed ∉ effectsOf before ∧ socketCalls after = []) := by
  intro r calls socket found
  rcases call.used_run s with hnone | ⟨endpoint, address, later, hfound, hevents, hused, hends⟩
  · change calls = [] at hnone
    rw [hnone]
    refine ⟨Nat.zero_le 1, fun family h => ?_, Nat.zero_le 1, ?_, fun family h => ?_⟩
    · cases h
    · intro before e after h
      exact absurd h.symm (by simp)
    · cases h
  · refine ⟨?_, fun family h => ?_, ?_, fun before e after h he => ?_, fun family _ hopen => ?_⟩
    · exact hused.countP_le Socket.routine_creates
    · have hfamily : family = address.family := hused.family h
      refine ⟨endpoint, address, later, hfound, hfamily, ?_, hevents,
        call.socketCalls_destination s⟩
      rw [hfamily]
      cases address <;> simp [Address.family, Address.version]
    · have hconnects := hused.countP_le Socket.routine_connects
      exact hconnects
    · obtain ⟨hconnects, hstart⟩ := hused.connects_before h he
      exact ⟨hconnects, endpoint, address, hfound, hstart⟩
    · obtain ⟨others, hcalls, hclosing, hclosed⟩ := hused.closed hopen
      obtain ⟨before, after, hsplit, hafter⟩ := hends hopen
      have hothers : socketCalls before = others := by
        rw [hsplit, socketCalls_append] at hcalls
        change socketCalls before ++ (.closing :: .closed :: socketCalls after) = _ at hcalls
        rw [hafter] at hcalls
        exact List.append_cancel_right hcalls
      rw [← hothers] at hclosing hclosed
      exact ⟨before, after, hsplit, fun h => hclosing (List.mem_filter.2 ⟨h, rfl⟩),
        fun h => hclosed (List.mem_filter.2 ⟨h, rfl⟩), hafter⟩

end Call

end Telnet
