import Telnet.Proofs.Client.Socket
import Telnet.Proofs.Resolution

/-!
# The address of a client

A number, its bytes and its text stand for the same address, whichever of them a resolver answers.
An address that was found is found again from its text, so that the text that a client logs and to
which it connects its socket is that of the address and of no other one (`resolve_agrees`).
-/

namespace Telnet

namespace Resolution

variable {σ : Type} {resolver : Resolver} {host : String} {a : Address}

theorem isPlain_of_found (h : found resolver host = .ok a) : a.IsPlain := by
  rcases found_cases resolver host with ⟨b, hread, hfound⟩ | hfound | ⟨given, -, hfound⟩ |
    ⟨f, -, hfound⟩
  · rw [hfound] at h
    cases h
    exact Address.isPlain_of_ofText? hread
  · rw [hfound] at h
    cases h
  · rw [hfound] at h
    exact Address.isPlain_of_address? (address_ok_iff.1 h)
  · rw [hfound] at h
    cases h

theorem outcome_resolve_given (logger : String) {given : Answer} (hname : isLiteral host = false)
    (haddress : given.address? = some a) (s : σ) :
    ((resolve logger (.given (.ok given)) host).run s).outcome = .ok a := by
  have hgiven : answer (.given (.ok given)) = .ok given := rfl
  rw [outcome_resolve, found_answered hname hgiven, address_ok_iff.2 haddress]

end Resolution

theorem Socket.Used.eq_of_connecting {s : Socket} {address : Address} {port port' : Int}
    {calls : List Effect} {text : String} (h : s.Used address port calls)
    (hmem : .connecting text port' ∈ calls) : text = address.text ∧ port' = port := by
  have htried : ∀ e ∈ s.attempt address port, e = .connecting text port' →
      text = address.text ∧ port' = port := by
    rintro e he rfl
    rcases Socket.eq_of_mem_attempt he with h | h | h
    · cases h
      exact ⟨rfl, rfl⟩
    · cases h
    · cases h
  cases h with
  | refused => simp at hmem
  | unconnected tried _ hcase =>
    have hin : Effect.connecting text port' ∈ tried := by simpa using hmem
    rcases hcase with rfl | rfl
    · cases hin
    · exact htried _ hin rfl
  | connected traffic _ _ htraffic =>
    have hnone : Effect.connecting text port' ∉ traffic := fun hmem => htraffic _ hmem
    have hin : Effect.connecting text port' ∈ s.attempt address port := by
      simpa [hnone] using hmem
    exact htried _ hin rfl

namespace Call

/-- A client connects to nothing but the address that it found. -/
theorem eq_of_connecting (call : Call) (s : Surroundings) {text : String} {port : Int}
    (hmem : .effect (.connecting text port) ∈ (call.run.run s).events) :
    ∃ endpoint a, (call.destination.run s).outcome = .ok (endpoint, a) ∧ text = a.text ∧
      port = endpoint.port := by
  have hcall : .connecting text port ∈ socketCalls (call.run.run s).events :=
    List.mem_filter.2 ⟨mem_effectsOf.2 hmem, rfl⟩
  rcases call.used_run s with hnone | ⟨endpoint, a, later, hfound, -, hused, -⟩
  · rw [hnone] at hcall
    cases hcall
  · obtain ⟨htext, hport⟩ := hused.eq_of_connecting hcall
    exact ⟨endpoint, a, hfound, htext, hport⟩

theorem isPlain_of_destination {call : Call} {s : Surroundings} {endpoint : Endpoint} {a : Address}
    (h : (call.destination.run s).outcome = .ok (endpoint, a)) : a.IsPlain := by
  rw [outcome_destination] at h
  exact Resolution.isPlain_of_found (goal_ok h).2

theorem events_run_found {call : Call} {s : Surroundings} {endpoint : Endpoint} {a : Address}
    (h : (call.destination.run s).outcome = .ok (endpoint, a)) :
    ∃ message later, (call.run.run s).events = (call.destination.run s).events ++
        .effect (.debug Log.clientLogger .connecting message) :: later ∧
      message.text = "Connecting to " ++ endpoint.text ++ " (" ++ a.text ++ ")" := by
  have hrun : (call.run.run s).events = (call.destination.run s).events ++
      ((call.visit (endpoint, a)).run s).events := by
    rw [run_eq, Act.run_bind_eq, h, call.state_destination]
  refine ⟨[.words "Connecting to ", .plain endpoint.datum, .words " (", .plain a.datum,
    .words ")"], ?_, ?_, ?_⟩
  · exact ((Act.ofExcept call.term >>= fun term =>
      conduct (.start Log.clientLogger call.limit term a endpoint.port call.polls)).run s).events
  · rw [hrun]
    rfl
  · rfl

end Call

namespace Resolution

/-- A name has the same address whether its resolver answers the number, its bytes or its text: one
of version 4 for a number below 2 ^ 32, and one of version 6 for any other below 2 ^ 128. Whatever
address a resolver answers, its text stands for it again; and so does the text that a client logs
for the address that it found, which is the only one that it connects to. -/
theorem resolve_agrees {σ : Type} (logger host : String) (s : σ) (hname : isLiteral host = false) :
    let outcome := fun resolver => ((resolve logger resolver host).run s).outcome
    let given := fun answer => outcome (.given (.ok answer))
    (∀ n : Fin (2 ^ 32), given (.number n.val) = .ok (.v4 n) ∧
      given (.bytes (Address.v4 n).toBytes) = .ok (.v4 n) ∧
      given (.text (Address.v4 n).text) = .ok (.v4 n)) ∧
    (∀ n : Fin (2 ^ 128), 2 ^ 32 ≤ n.val → given (.number n.val) = .ok (.v6 n none) ∧
      given (.bytes (Address.v6 n none).toBytes) = .ok (.v6 n none) ∧
      given (.text (Address.v6 n none).text) = .ok (.v6 n none)) ∧
    (∀ resolver a, outcome resolver = .ok a → given (.text a.text) = .ok a) ∧
    ∀ (call : Call) (t : Surroundings),
      let found := call.destination.run t
      let events := (call.run.run t).events
      (∀ endpoint a, found.outcome = .ok (endpoint, a) → given (.text a.text) = .ok a ∧
        ∃ message later, events =
          found.events ++ .effect (.debug Log.clientLogger .connecting message) :: later ∧
          message.text = "Connecting to " ++ endpoint.text ++ " (" ++ a.text ++ ")") ∧
      ∀ text port, .effect (.connecting text port) ∈ events →
        ∃ endpoint a, found.outcome = .ok (endpoint, a) ∧ text = a.text ∧ port = endpoint.port := by
  intro outcome given
  have hgiven : ∀ {answer : Answer} {a : Address}, answer.address? = some a →
      given answer = .ok a := fun h => outcome_resolve_given logger hname h s
  have htext : ∀ {a : Address}, a.IsPlain → given (.text a.text) = .ok a :=
    fun h => hgiven (Address.ofText?_text h)
  refine ⟨fun n => ⟨?_, ?_, ?_⟩, fun n hn => ⟨?_, ?_, ?_⟩, fun resolver a ha => ?_, ?_⟩
  · exact hgiven (Address.ofNumber?_v4 n)
  · exact hgiven (Address.ofBytes?_toBytes_v4 n)
  · exact htext (a := .v4 n) trivial
  · exact hgiven (Address.ofNumber?_v6 n hn)
  · exact hgiven (Address.ofBytes?_toBytes_v6 n)
  · exact htext (a := .v6 n none) trivial
  · have hfound : found resolver host = .ok a :=
      (outcome_resolve logger resolver host s).symm.trans ha
    exact htext (isPlain_of_found hfound)
  · intro call t
    refine ⟨fun endpoint a hfound => ?_, fun text port hmem => call.eq_of_connecting t hmem⟩
    exact ⟨htext (Call.isPlain_of_destination hfound), Call.events_run_found hfound⟩

/-- Of two runs of zeros with the same length the first one is left out in print. -/
theorem resolve_agrees_two_runs :
    let n : Fin (2 ^ 128) := 0x00010000000000020000000000030004
    let given := fun answer =>
      ((resolve "" (.given (.ok answer)) "localhost" : Act Effect Unit Address).run ()).outcome
    isLiteral "localhost" = false ∧ 2 ^ 32 ≤ n.val ∧
      (Address.v6 n none).text = "1::2:0:0:3:4" ∧ given (.number n.val) = .ok (.v6 n none) ∧
      given (.text "1::2:0:0:3:4") = .ok (.v6 n none) := by
  intro n given
  have hname : isLiteral "localhost" = false := by decide
  have hlarge : 2 ^ 32 ≤ n.val := by decide
  have hprint : (Address.v6 n none).text = "1::2:0:0:3:4" := by decide
  obtain ⟨-, hagrees, -, -⟩ := resolve_agrees "" "localhost" () hname
  obtain ⟨hnumber, -, htext⟩ := hagrees n hlarge
  rw [hprint] at htext
  exact ⟨hname, hlarge, hprint, hnumber, htext⟩

end Resolution

end Telnet
