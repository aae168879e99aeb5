import Telnet.Proofs.Connection.Use

/-!
# The stream behind a connection

Whatever is asked of a connection, what it hands out and what it still has to hand out make up the
same stream. The end of the stream is recorded only when nothing is left, so that a connection which
counts as closed has handed out everything, unless looking at it failed.
-/

namespace Telnet

/-! ### Sockets -/

namespace Arrival

def unread : List Arrival → Bytes
  | [] => []
  | .data bytes :: rest => bytes ++ unread rest
  | .blocked :: rest => unread rest
  | .ended :: _ => []
  | .failed _ :: rest => unread rest

def Proper (arrivals : List Arrival) : Prop := ∀ bytes, .data bytes ∈ arrivals → bytes ≠ []

def AtEnd (arrivals : List Arrival) : Prop := ∃ rest, arrivals = .ended :: rest

theorem unread_of_atEnd {arrivals : List Arrival} (h : AtEnd arrivals) : unread arrivals = [] := by
  obtain ⟨rest, rfl⟩ := h
  rfl

theorem Proper.tail {a : Arrival} {rest : List Arrival} (h : Proper (a :: rest)) : Proper rest :=
  fun bytes hmem => h bytes (List.mem_cons_of_mem a hmem)

theorem Proper.cons {bytes : Bytes} {rest : List Arrival} (h : Proper rest) (hbytes : bytes ≠ []) :
    Proper (.data bytes :: rest) := by
  intro b hmem
  rcases List.mem_cons.1 hmem with heq | hmem
  · cases heq
    exact hbytes
  · exact h b hmem

end Arrival

namespace Socket

open Arrival

variable {arrivals : List Arrival} {limit : Nat}

def Received.got : Received → Bytes
  | .bytes b => b
  | .blocked | .failed _ => []

theorem got_append_take (limit : Nat) (arrivals : List Arrival) :
    (take limit arrivals).1.got ++ unread (take limit arrivals).2 = unread arrivals := by
  rcases arrivals with _ | ⟨a, rest⟩
  · rfl
  · cases a with
    | data bytes =>
      show bytes.take limit ++ unread (if (bytes.drop limit).isEmpty then rest
        else .data (bytes.drop limit) :: rest) = bytes ++ unread rest
      by_cases hdrop : bytes.drop limit = []
      · have htake : bytes.take limit = bytes := by
          have happend := List.take_append_drop limit bytes
          rwa [hdrop, List.append_nil] at happend
        rw [hdrop, List.isEmpty_nil, if_pos rfl, htake]
      · rw [if_neg (by simpa using hdrop), unread, ← List.append_assoc, List.take_append_drop]
    | blocked | ended | failed => rfl

theorem length_got_take (limit : Nat) (arrivals : List Arrival) :
    (take limit arrivals).1.got.length ≤ limit := by
  rcases arrivals with _ | ⟨a, rest⟩
  · exact Nat.zero_le limit
  · cases a with
    | data bytes => exact List.length_take_le limit bytes
    | blocked | ended | failed => exact Nat.zero_le limit

theorem proper_take (h : Proper arrivals) : Proper (take limit arrivals).2 := by
  rcases arrivals with _ | ⟨a, rest⟩
  · exact h
  · cases a with
    | data bytes =>
      show Proper (if (bytes.drop limit).isEmpty then rest else .data (bytes.drop limit) :: rest)
      by_cases hdrop : bytes.drop limit = []
      · rw [hdrop, List.isEmpty_nil, if_pos rfl]
        exact h.tail
      · rw [if_neg (by simpa using hdrop)]
        exact h.tail.cons hdrop
    | blocked | failed => exact h.tail
    | ended => exact h

/-- Nothing is received as data only at the end of the stream. -/
theorem atEnd_of_take (h : Proper arrivals) (hlimit : 0 < limit)
    (hend : (take limit arrivals).1 = .bytes []) : AtEnd (take limit arrivals).2 := by
  rcases arrivals with _ | ⟨a, rest⟩
  · cases hend
  · cases a with
    | data bytes =>
      have htake : bytes.take limit = [] := Received.bytes.inj hend
      have hbytes : bytes ≠ [] := h bytes List.mem_cons_self
      rcases List.take_eq_nil_iff.1 htake with hzero | hnil
      · omega
      · exact absurd hnil hbytes
    | blocked | failed => cases hend
    | ended => exact ⟨rest, rfl⟩

theorem take_of_atEnd (h : AtEnd arrivals) : take limit arrivals = (.bytes [], arrivals) := by
  obtain ⟨rest, rfl⟩ := h
  rfl

theorem unread_peek (arrivals : List Arrival) : unread (peek arrivals).2 = unread arrivals := by
  rcases arrivals with _ | ⟨a, rest⟩
  · rfl
  · cases a <;> rfl

theorem proper_peek (h : Proper arrivals) : Proper (peek arrivals).2 := by
  rcases arrivals with _ | ⟨a, rest⟩
  · exact h
  · cases a with
    | data | ended => exact h
    | blocked | failed => exact h.tail

theorem atEnd_of_peek (h : Proper arrivals) (hend : (peek arrivals).1 = .bytes []) :
    AtEnd (peek arrivals).2 := by
  rcases arrivals with _ | ⟨a, rest⟩
  · cases hend
  · cases a with
    | data bytes =>
      have htake : bytes.take 1 = [] := Received.bytes.inj hend
      rcases List.take_eq_nil_iff.1 htake with hzero | hnil
      · omega
      · exact absurd hnil (h bytes List.mem_cons_self)
    | blocked | failed => cases hend
    | ended => exact ⟨rest, rfl⟩

end Socket

/-! ### Connections -/

namespace Link

open Arrival

def unread (l : Link) : Bytes := Arrival.unread l.socket.arrivals

/-- A connection is in use, and it knows no more about the end of the stream than is true. -/
structure Sound (l : Link) : Prop where
  isOpen : l.isOpen = true
  connected : l.connected = true
  chunk : l.chunk = standardChunk
  proper : Proper l.socket.arrivals
  atEnd : l.ended = true → AtEnd l.socket.arrivals

/-- Looking at a connection fails, in a way that makes it count as closed. -/
def LooksBroken (l : Link) : Prop :=
  l.ended = false ∧ ∃ e, (Socket.peek l.socket.arrivals).1 = .failed (.system e) ∧
    e.kind ≠ .wouldBlock

variable {l : Link} {limit : Nat}

theorem run_onSocket_receive (limit : Nat) (isPeek : Bool) (l : Link) :
    (onSocket (Socket.receive limit isPeek)).run l =
      let t := if isPeek then Socket.peek l.socket.arrivals else Socket.take limit l.socket.arrivals
      ⟨.ok t.1, { l with socket := { l.socket with arrivals := t.2 } },
        [.receive limit isPeek]⟩ := rfl

def after (l : Link) (received : Socket.Received) (arrivals : List Arrival) : Link :=
  { l with
    ended := l.ended || decide (received = .bytes [])
    socket := { l.socket with arrivals := arrivals } }

theorem run_read (hopen : l.isOpen = true) (hlimit : 0 < limit) :
    let t := Socket.take limit l.socket.arrivals
    ((read (some limit)).run l).state = l.after t.1 t.2 ∧
      ((read (some limit)).run l).outcome =
        match t.1 with
        | .bytes b => .ok (some b)
        | .blocked => .ok none
        | .failed (.system _) => .ok none
        | .failed f => .error f := by
  obtain ⟨n, rfl⟩ : ∃ n, limit = n + 1 := ⟨limit - 1, by omega⟩
  rcases ht : Socket.take (n + 1) l.socket.arrivals with ⟨received, rest⟩
  cases received with
  | bytes b =>
    cases b <;> simp [read, Act.run_bind_eq, run_onSocket_receive, hopen, ht, after, Except.map]
  | blocked => simp [read, Act.run_bind_eq, run_onSocket_receive, hopen, ht, after]
  | failed f =>
    cases f with
    | system e =>
      by_cases hkind : e.kind = .wouldBlock <;>
        simp [read, Act.run_bind_eq, run_onSocket_receive, hopen, ht, after, hkind, note,
          Except.map]
    | _ => simp [read, Act.run_bind_eq, run_onSocket_receive, hopen, ht, after]

theorem run_status_ended (hopen : l.isOpen = true) (hconnected : l.connected = true)
    (hended : l.ended = true) :
    (status.run l).state = l ∧ (status.run l).outcome = .ok (some .ended) := by
  simp [status, Act.run_bind_eq, hopen, hconnected, hended]

theorem run_status (hopen : l.isOpen = true) (hconnected : l.connected = true)
    (hended : l.ended = false) :
    let t := Socket.peek l.socket.arrivals
    (status.run l).state = l.after t.1 t.2 ∧
      (status.run l).outcome =
        match t.1 with
        | .bytes b => .ok (some (if b.isEmpty then .ended else .waiting))
        | .blocked => .ok (some .quiet)
        | .failed (.system e) => .ok (some (if e.kind = .wouldBlock then .quiet else .unconnected))
        | .failed f => .error f := by
  rcases ht : Socket.peek l.socket.arrivals with ⟨received, rest⟩
  cases received with
  | bytes b =>
    cases b <;> simp [status, Act.run_bind_eq, run_onSocket_receive, hopen, hconnected, hended, ht,
      after, Except.map]
  | blocked =>
    simp [status, Act.run_bind_eq, run_onSocket_receive, hopen, hconnected, hended, ht, after]
  | failed f =>
    cases f with
    | system e =>
      by_cases hkind : e.kind = .wouldBlock <;>
        simp [status, Act.run_bind_eq, run_onSocket_receive, hopen, hconnected, hended, ht, after,
          hkind, note, Except.map]
    | _ =>
      simp [status, Act.run_bind_eq, run_onSocket_receive, hopen, hconnected, hended, ht, after]

/-! ### What stays true -/

/-- A connection took the stream to have ended only where it ends. -/
structure Tracks (l : Link) : Prop where
  proper : Proper l.socket.arrivals
  atEnd : l.ended = true → AtEnd l.socket.arrivals

theorem Tracks.after {received : Socket.Received} {arrivals : List Arrival}
    (hproper : Proper arrivals) (hend : received = .bytes [] → AtEnd arrivals)
    (hkeep : l.ended = true → AtEnd arrivals) : Tracks (l.after received arrivals) := by
  refine ⟨hproper, fun hended => ?_⟩
  rcases Bool.or_eq_true_iff.1 hended with hold | hnew
  · exact hkeep hold
  · exact hend (of_decide_eq_true hnew)

theorem Tracks.after_take (h : Tracks l) (hlimit : 0 < limit) :
    let t := Socket.take limit l.socket.arrivals
    Tracks (l.after t.1 t.2) := by
  refine .after (Socket.proper_take h.proper) (Socket.atEnd_of_take h.proper hlimit) ?_
  -- What has seen the end of the stream stays in front of it.
  intro hended
  rw [Socket.take_of_atEnd (h.atEnd hended)]
  exact h.atEnd hended

theorem Tracks.after_peek (h : Tracks l) (hended : l.ended = false) :
    let t := Socket.peek l.socket.arrivals
    Tracks (l.after t.1 t.2) := by
  refine .after (Socket.proper_peek h.proper) (Socket.atEnd_of_peek h.proper) ?_
  intro h'
  rw [hended] at h'
  cases h'

theorem Sound.tracks (h : Sound l) : Tracks l := ⟨h.proper, h.atEnd⟩

theorem Sound.after_take (h : Sound l) (hlimit : 0 < limit) :
    let t := Socket.take limit l.socket.arrivals
    Sound (l.after t.1 t.2) := by
  have htracks := h.tracks.after_take hlimit
  exact ⟨h.isOpen, h.connected, h.chunk, htracks.proper, htracks.atEnd⟩

theorem Sound.after_peek (h : Sound l) (hended : l.ended = false) :
    let t := Socket.peek l.socket.arrivals
    Sound (l.after t.1 t.2) := by
  have htracks := h.tracks.after_peek hended
  exact ⟨h.isOpen, h.connected, h.chunk, htracks.proper, htracks.atEnd⟩

def handed : Except Failure (Option Bytes) → Bytes
  | .ok (some bytes) => bytes
  | .ok none | .error _ => []

theorem Sound.of_alike {l l' : Link} (h : Sound l) (halike : Alike l l') :
    Sound l' ∧ unread l' = unread l := by
  obtain ⟨s, hs, rfl⟩ := halike
  refine ⟨⟨h.isOpen, h.connected, h.chunk, ?_, ?_⟩, congrArg Arrival.unread hs⟩
  · show Proper s.arrivals
    rw [hs]
    exact h.proper
  · intro hended
    show AtEnd s.arrivals
    rw [hs]
    exact h.atEnd hended

/-! ### Connecting -/

end Link

end Telnet
