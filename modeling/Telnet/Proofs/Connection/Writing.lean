import Telnet.Proofs.Connection.Ordinary

/-!
# Writing to a connection

A write goes round by round: it waits for the socket, and then it sends what is left of the bytes.
What the socket takes in a round is the front of what is left, so after any number of rounds what
was taken and what is left make up the bytes (`accepted_append_left`). A write stops when nothing is
left or when a round fails, whichever comes first (`exists_takes`).
-/

namespace Telnet

namespace Effect

def accepted (events : List Effect) : Bytes :=
  events.flatMap fun
    | .sent bytes => bytes
    | _ => []

/-- A socket was sent something, whether it took any of it or not. -/
def IsSend : Effect → Prop
  | .sent _ | .sendBlocked | .sendFailed => True
  | _ => False

@[simp] theorem accepted_append (es es' : List Effect) :
    accepted (es ++ es') = accepted es ++ accepted es' := List.flatMap_append

theorem accepted_of_not_isSend {es : List Effect} (h : ∀ e ∈ es, ¬e.IsSend) :
    accepted es = [] := by
  apply List.flatMap_eq_nil_iff.2
  intro e he
  have hother := h e he
  cases e with
  | sent => exact absurd trivial hother
  | _ => rfl

theorem not_isSend_of_logged {es : List Effect} (h : ∀ e ∈ es, ∃ record, e = .logged record) :
    ∀ e ∈ es, ¬e.IsSend := by
  intro e he hsend
  obtain ⟨record, rfl⟩ := h e he
  exact hsend

/-- Nothing is sent but directly after waiting for the socket. -/
def Waited (es : List Effect) : Prop :=
  ∀ before e after, es = before ++ e :: after → e.IsSend → before.getLast? = some .waitWritable

theorem Waited.append {es es' : List Effect} (h : Waited es) (h' : Waited es') :
    Waited (es ++ es') := by
  intro before e after heq hsend
  rcases List.append_eq_append_iff.1 heq with ⟨middle, hbefore, hrest⟩ | ⟨middle, hes, hafter⟩
  · have hlast := h' middle e after hrest hsend
    rw [hbefore, List.getLast?_append, hlast]
    rfl
  · cases middle with
    | nil =>
      -- What is sent comes first in the second part, where nothing stands before it.
      have hnone := h' [] e after hafter.symm hsend
      cases hnone
    | cons e' middle =>
      obtain ⟨rfl, -⟩ := List.cons.inj hafter
      exact h before e middle hes hsend

theorem Waited.of_not_isSend {es : List Effect} (h : ∀ e ∈ es, ¬e.IsSend) : Waited es := by
  intro before e after heq hsend
  have hmem : e ∈ es := by
    rw [heq]
    exact List.mem_append_right before List.mem_cons_self
  exact absurd hsend (h e hmem)

theorem Waited.flatMap {α : Type} {f : α → List Effect} (l : List α) (h : ∀ a, Waited (f a)) :
    Waited (l.flatMap f) := by
  induction l with
  | nil => exact .of_not_isSend fun e he => by cases he
  | cons a l ih =>
    rw [List.flatMap_cons]
    exact (h a).append ih

end Effect

/-- A failure to send that only means that the socket was not ready after all. -/
def Failure.isSpurious : Failure → Bool
  | .system e => decide (e.kind = .wouldBlock)
  | _ => false

namespace Socket

open Effect

/-- What happens in one round of a write: how waiting for the socket ends, and what becomes of the
bytes that are sent then. No word on them means that all are taken. -/
structure Round where
  wait : Option Failure
  acceptance : Option Acceptance
  deriving DecidableEq, Repr

namespace Round

def failure? : Round → Option Failure
  | ⟨some f, _⟩ => some f
  | ⟨none, some (.failed f)⟩ => if f.isSpurious then none else some f
  | ⟨none, _⟩ => none

def sends : Round → Bytes → List Effect
  | ⟨some _, _⟩, _ => []
  | ⟨none, none⟩, left => [.sent left]
  | ⟨none, some (.upTo count)⟩, left => [.sent (left.take count)]
  | ⟨none, some .blocked⟩, _ => [.sendBlocked]
  | ⟨none, some (.failed _)⟩, _ => [.sendFailed]

def effects (r : Round) (left : Bytes) : List Effect := .waitWritable :: r.sends left

/-- The socket turns out not to be ready when it is sent the bytes. -/
def IsSpurious : Round → Prop
  | ⟨none, some .blocked⟩ => True
  | ⟨none, some (.failed f)⟩ => f.isSpurious = true
  | _ => False

theorem accepted_effects (r : Round) (left : Bytes) :
    accepted (r.effects left) = accepted (r.sends left) := rfl

theorem accepted_isFront (r : Round) (left : Bytes) : accepted (r.sends left) <+: left := by
  rcases r with ⟨_ | f, _ | ⟨count⟩ | _ | g⟩ <;>
    simp [sends, accepted, List.take_prefix]

theorem accepted_of_isSpurious {r : Round} (h : r.IsSpurious) (left : Bytes) :
    accepted (r.sends left) = [] := by
  rcases r with ⟨_ | f, _ | ⟨count⟩ | _ | g⟩
  · exact h.elim
  · exact h.elim
  all_goals rfl

theorem accepted_of_failure {r : Round} {f : Failure} (h : r.failure? = some f) (left : Bytes) :
    accepted (r.sends left) = [] := by
  rcases r with ⟨_ | g, _ | ⟨count⟩ | _ | g'⟩
  · cases h
  · cases h
  all_goals rfl

theorem cause_of_failure {r : Round} {f : Failure} (h : r.failure? = some f) :
    r.wait = some f ∨ r.acceptance = some (.failed f) ∧ f.isSpurious = false := by
  rcases r with ⟨_ | g, _ | ⟨count⟩ | _ | g'⟩
  · cases h
  · cases h
  · cases h
  · cases hspurious : g'.isSpurious with
    | true => simp [failure?, hspurious] at h
    | false =>
      obtain rfl : g' = f := by simpa [failure?, hspurious] using h
      exact .inr ⟨rfl, hspurious⟩
  all_goals
    cases h
    exact .inl rfl

theorem wait_of_failure {r : Round} (h : r.failure? = none) : r.wait = none := by
  rcases r with ⟨_ | f, acceptance⟩
  · rfl
  · cases h

theorem waited_effects (r : Round) (left : Bytes) : Waited (r.effects left) := by
  have hpair : ∀ e' : Effect, Waited [.waitWritable, e'] := by
    intro e' before e after heq hsend
    rcases before with _ | ⟨e₁, _ | ⟨e₂, before⟩⟩
    · cases heq
      exact hsend.elim
    · cases heq
      rfl
    · have hlength := congrArg List.length heq
      simp at hlength
  have hsingle : Waited [.waitWritable] := .of_not_isSend fun e he => by
    obtain rfl := List.mem_singleton.1 he
    exact fun hsend => hsend.elim
  rcases r with ⟨_ | f, _ | ⟨count⟩ | _ | g⟩
  all_goals first | exact hsingle | exact hpair _

end Round

def round (s : Socket) (k : Nat) : Round := ⟨s.waits[k]?.join, s.acceptances[k]?⟩

def left (s : Socket) (bytes : Bytes) : Nat → Bytes
  | 0 => bytes
  | k + 1 => (s.left bytes k).drop (accepted ((s.round k).sends (s.left bytes k))).length

def rounds (s : Socket) (bytes : Bytes) (n : Nat) : List Effect :=
  (List.range n).flatMap fun k => (s.round k).effects (s.left bytes k)

def next (s : Socket) : Socket :=
  { s with waits := s.waits.tail, acceptances := s.acceptances.tail }

variable {s : Socket} {bytes : Bytes}

/-- What was taken and what is left make up the bytes. -/
theorem accepted_append_left (s : Socket) (bytes : Bytes) (n : Nat) :
    accepted (s.rounds bytes n) ++ s.left bytes n = bytes := by
  induction n with
  | zero => rfl
  | succ n ih =>
    have htaken := List.prefix_iff_eq_append.1 ((s.round n).accepted_isFront (s.left bytes n))
    rw [rounds] at ih
    rw [rounds, List.range_succ, List.flatMap_append, accepted_append, List.append_assoc,
      List.flatMap_singleton, Round.accepted_effects, left, htaken, ih]

theorem mem_rounds {e : Effect} {n : Nat} (h : e ∈ s.rounds bytes n) :
    e = .waitWritable ∨ e.IsSend := by
  obtain ⟨k, -, hk⟩ := List.mem_flatMap.1 h
  rcases List.mem_cons.1 hk with rfl | hsend
  · exact .inl rfl
  · rcases hround : s.round k with ⟨_ | f, _ | ⟨count⟩ | _ | g⟩ <;> rw [hround] at hsend
    all_goals first
      | cases hsend; done
      | obtain rfl := List.mem_singleton.1 hsend; exact .inr trivial

theorem waited_rounds (s : Socket) (bytes : Bytes) (n : Nat) : Waited (s.rounds bytes n) :=
  .flatMap _ fun _ => Round.waited_effects _ _

theorem round_of_wait (h : (s.round 0).wait = none) :
    s.round 0 = ⟨none, s.acceptances.head?⟩ := by
  rw [← h, List.head?_eq_getElem?]
  rfl

theorem round_next (s : Socket) (k : Nat) : s.next.round k = s.round (k + 1) := by
  simp [next, round]

theorem left_next (s : Socket) (bytes : Bytes) (k : Nat) :
    s.next.left (s.left bytes 1) k = s.left bytes (k + 1) := by
  induction k with
  | zero => rfl
  | succ k ih => rw [left, ih, round_next, ← left]

theorem rounds_succ (s : Socket) (bytes : Bytes) (n : Nat) :
    s.rounds bytes (n + 1) = (s.round 0).effects bytes ++ s.next.rounds (s.left bytes 1) n := by
  rw [rounds, List.range_succ_eq_map, List.flatMap_cons, List.flatMap_map, rounds]
  simp only [round_next, left_next]
  rfl

end Socket

namespace Link

open Socket Effect

variable {s : Socket} {bytes : Bytes}

/-! ### One round -/

theorem run_waitWritable (hhangs : s.hangs = false) :
    Socket.waitWritable.run s =
      ⟨match (s.round 0).wait with
        | some f => .error f
        | none => .ok (), { s with waits := s.waits.tail }, [.waitWritable]⟩ := by
  rcases s with ⟨openFailure, connectResult, pendingError, hangs, arrivals, acceptances, waits⟩
  cases hhangs
  rcases waits with _ | ⟨_ | f, waits⟩ <;> simp [Socket.waitWritable, Socket.round, Act.run_bind_eq]

theorem send_of_wait {f : Failure} (hhangs : s.hangs = false) (hbytes : bytes ≠ [])
    (hwait : (s.round 0).wait = some f) :
    ((send s.acceptances bytes).run s).outcome = .error f ∧
      ((send s.acceptances bytes).run s).events = [.waitWritable] := by
  have hrun := run_waitWritable hhangs
  rw [hwait] at hrun
  unfold send
  rw [if_neg (by simpa using hbytes), Act.run_bind_error hrun]
  exact ⟨rfl, rfl⟩

theorem run_send_of_ready (hhangs : s.hangs = false) (hbytes : bytes ≠ [])
    (hwait : (s.round 0).wait = none) :
    let next := (send s.next.acceptances (s.left bytes 1)).run s.next
    (send s.acceptances bytes).run s =
      match (s.round 0).failure? with
      | some f => ⟨.error f, s.next, (s.round 0).effects bytes⟩
      | none => ⟨next.outcome, next.state, (s.round 0).effects bytes ++ next.events⟩ := by
  intro next
  have hrun := run_waitWritable hhangs
  have hempty : bytes.isEmpty = false := by simpa using hbytes
  have hround := round_of_wait hwait
  have hleft : s.left bytes 1 = bytes.drop (accepted ((s.round 0).sends bytes)).length := rfl
  rw [hwait] at hrun
  rw [hround] at hleft ⊢
  unfold send
  rw [hempty, if_neg Bool.false_ne_true, Act.run_bind_ok hrun]
  cases hacceptances : s.acceptances with
  | nil =>
    have hnone : s.left bytes 1 = [] := by
      rw [hleft, hacceptances]
      simp [Round.sends, accepted]
    have hnext : next = ⟨.ok (), s.next, []⟩ := by
      simp only [next, hnone]
      unfold send
      rfl
    rw [hnext]
    simp [Round.sends, Round.effects, Round.failure?, Socket.next, hacceptances]
  | cons outcome rest =>
    have hnext : next = (send rest (s.left bytes 1)).run s.next := by
      simp only [next, Socket.next, hacceptances, List.tail_cons]
    rw [hacceptances] at hleft
    rw [hnext, hleft]
    cases outcome with
    | upTo count =>
      have hdrop : bytes.drop (min count bytes.length) = bytes.drop count := by
        rcases Nat.le_total count bytes.length with hle | hle
        · rw [Nat.min_eq_left hle]
        · rw [Nat.min_eq_right hle, List.drop_length, List.drop_of_length_le hle]
      simp [Round.sends, Round.effects, Round.failure?, Socket.next, hacceptances, accepted, hdrop,
        Act.run_bind_eq]
    | blocked =>
      simp [Round.sends, Round.effects, Round.failure?, Socket.next, hacceptances, accepted,
        Act.run_bind_eq]
    | failed f =>
      cases f with
      | system e =>
        by_cases hkind : e.kind = .wouldBlock <;>
          simp [Round.sends, Round.effects, Round.failure?, Failure.isSpurious, Socket.next,
            hacceptances, accepted, hkind, Act.run_bind_eq]
      | _ =>
        simp [Round.sends, Round.effects, Round.failure?, Failure.isSpurious, Socket.next,
          hacceptances, Act.run_bind_eq]

/-! ### All rounds -/

/-- How a write ends after a number of rounds: nothing is left and no round failed, or the last
round failed, with something left. -/
structure Stops (s : Socket) (bytes : Bytes) (n : Nat) (outcome : Except Failure Unit) : Prop where
  goesOn : ∀ k, k + 1 < n → (s.round k).failure? = none
  done : outcome = .ok () → s.left bytes n = [] ∧ ∀ k < n, (s.round k).failure? = none
  failed : ∀ f, outcome = .error f →
    ∃ k, n = k + 1 ∧ s.left bytes k ≠ [] ∧ (s.round k).failure? = some f

/-- To send some bytes takes so many rounds. -/
def Takes (s : Socket) (bytes : Bytes) (n : Nat) : Prop :=
  ((send s.acceptances bytes).run s).events = s.rounds bytes n ∧
    Stops s bytes n ((send s.acceptances bytes).run s).outcome

theorem takes_nil (s : Socket) : Takes s [] 0 := by
  have hrun : (send s.acceptances []).run s = ⟨.ok (), s, []⟩ := by
    unfold send
    rfl
  rw [Takes, hrun]
  refine ⟨rfl, ?_, ?_, ?_⟩
  · intro k hk
    omega
  · intro _
    exact ⟨rfl, fun k hk => absurd hk (Nat.not_lt_zero k)⟩
  · intro f hf
    cases hf

theorem takes_of_failure {f : Failure} (hhangs : s.hangs = false) (hbytes : bytes ≠ [])
    (hfailure : (s.round 0).failure? = some f) : Takes s bytes 1 := by
  have hrun : ((send s.acceptances bytes).run s).outcome = .error f ∧
      ((send s.acceptances bytes).run s).events = (s.round 0).effects bytes := by
    cases hwait : (s.round 0).wait with
    | some g =>
      rcases hround : s.round 0 with ⟨wait, acceptance⟩
      rw [hround] at hwait hfailure
      cases hwait
      cases hfailure
      exact send_of_wait hhangs hbytes (by rw [hround])
    | none =>
      rw [run_send_of_ready hhangs hbytes hwait, hfailure]
      exact ⟨rfl, rfl⟩
  obtain ⟨houtcome, hevents⟩ := hrun
  have hrounds : s.rounds bytes 1 = (s.round 0).effects bytes := by
    rw [rounds_succ]
    exact List.append_nil _
  refine ⟨hevents.trans hrounds.symm, ?_, ?_, ?_⟩
  · intro k hk
    omega
  · intro hok
    rw [houtcome] at hok
    cases hok
  · intro g hg
    rw [houtcome] at hg
    cases hg
    exact ⟨0, rfl, hbytes, hfailure⟩

theorem takes_succ {n : Nat} (hhangs : s.hangs = false) (hbytes : bytes ≠ [])
    (hfailure : (s.round 0).failure? = none) (hnext : Takes s.next (s.left bytes 1) n) :
    Takes s bytes (n + 1) := by
  have hrun := run_send_of_ready hhangs hbytes (Round.wait_of_failure hfailure)
  rw [hfailure] at hrun
  obtain ⟨hevents, hgoesOn, hdone, hfailed⟩ := hnext
  rw [Takes, hrun, rounds_succ, hevents]
  refine ⟨rfl, ?_, ?_, ?_⟩
  · intro k hk
    cases k with
    | zero => exact hfailure
    | succ k =>
      rw [← round_next]
      exact hgoesOn k (by omega)
  · intro hok
    obtain ⟨hleft, hrest⟩ := hdone hok
    refine ⟨by rw [← left_next, hleft], ?_⟩
    intro k hk
    cases k with
    | zero => exact hfailure
    | succ k =>
      rw [← round_next]
      exact hrest k (by omega)
  · intro f hf
    obtain ⟨k, hn, hleft, hlast⟩ := hfailed f hf
    rw [left_next] at hleft
    rw [round_next] at hlast
    exact ⟨k + 1, by omega, hleft, hlast⟩

theorem exists_takes (hhangs : s.hangs = false) (bytes : Bytes) : ∃ n, Takes s bytes n := by
  have hstep : ∀ {s : Socket} {bytes : Bytes}, s.hangs = false → bytes ≠ [] →
      ((s.round 0).failure? = none → ∃ n, Takes s.next (s.left bytes 1) n) →
        ∃ n, Takes s bytes n := by
    intro s bytes hhangs hbytes hnext
    cases hfailure : (s.round 0).failure? with
    | some f => exact ⟨1, takes_of_failure hhangs hbytes hfailure⟩
    | none =>
      obtain ⟨n, hn⟩ := hnext hfailure
      exact ⟨n + 1, takes_succ hhangs hbytes hfailure hn⟩
  -- Each round but the last one takes a word from the socket on what becomes of the bytes.
  induction hacceptances : s.acceptances generalizing s bytes with
  | nil =>
    by_cases hbytes : bytes = []
    · exact ⟨0, hbytes ▸ takes_nil s⟩
    · refine hstep hhangs hbytes fun hfailure => ⟨0, ?_⟩
      have hround : s.round 0 = ⟨none, none⟩ := by
        rw [round_of_wait (Round.wait_of_failure hfailure), hacceptances, List.head?_nil]
      have hnone : s.left bytes 1 = [] := by
        have hsent : accepted ((s.round 0).sends bytes) = bytes := by
          rw [hround]
          exact List.append_nil bytes
        rw [left, left, hsent, List.drop_length]
      rw [hnone]
      exact takes_nil s.next
  | cons outcome rest ih =>
    by_cases hbytes : bytes = []
    · exact ⟨0, hbytes ▸ takes_nil s⟩
    · refine hstep hhangs hbytes fun _ => ih (s := s.next) hhangs _ ?_
      rw [Socket.next, hacceptances, List.tail_cons]

/-! ### A write -/

def noted : Except Failure Unit → List Effect
  | .error (.system e) =>
    [.debug Log.connectionLogger .writeFailed [.words "write failed: ", .quoted e.datum]]
  | _ => []

theorem logged_of_mem_noted {outcome : Except Failure Unit} {e : Effect} (h : e ∈ noted outcome) :
    ∃ record, e = .logged record := by
  rcases outcome with f | _
  · cases f with
    | system e' =>
      obtain rfl := List.mem_singleton.1 h
      exact ⟨_, rfl⟩
    | _ => cases h
  · cases h

theorem run_write {l : Link} (hopen : l.isOpen = true) (bytes : Bytes)
    (hsystem : ∀ f, ((send l.socket.acceptances bytes).run l.socket).outcome = .error f →
      f.IsSystem) :
    let r := (send l.socket.acceptances bytes).run l.socket
    (write bytes).run l = ⟨.ok (), { l with socket := r.state }, r.events ++ noted r.outcome⟩ := by
  intro r
  have hsent : (onSocket (send l.socket.acceptances bytes)).run l =
      ⟨r.outcome, { l with socket := r.state }, r.events⟩ := rfl
  cases hr : r.outcome with
  | ok => simp [write, Act.run_bind_eq, hopen, hsent, hr, noted]
  | error f =>
    obtain ⟨e, rfl⟩ := (hsystem f hr).eq_system
    simp [write, Act.run_bind_eq, hopen, hsent, hr, noted, note]

end Link

namespace Socket

/-- Waiting for the socket ends, and a round of a write fails with `F` only. -/
structure Accepting (F : Failure → Prop) (s : Socket) : Prop where
  hangs : s.hangs = false
  waits : ∀ f, some f ∈ s.waits → F f
  acceptances : ∀ f, .failed f ∈ s.acceptances → f.isSpurious = true ∨ F f

theorem Accepting.of_waits {F : Failure → Prop} {s : Socket} (h : s.Accepting F)
    {outcome : Option Failure} {rest : List (Option Failure)} (hwaits : s.waits = outcome :: rest) :
    Accepting F { s with waits := rest } := by
  refine ⟨h.hangs, fun f hf => h.waits f ?_, h.acceptances⟩
  rw [hwaits]
  exact List.mem_cons_of_mem outcome hf

theorem Accepting.of_failure {F : Failure → Prop} {s : Socket} (h : s.Accepting F) {k : Nat}
    {f : Failure} (hfailure : (s.round k).failure? = some f) : F f := by
  rcases Round.cause_of_failure hfailure with hwait | ⟨hacceptance, hspurious⟩
  · exact h.waits f (List.mem_of_getElem? (Option.join_eq_some_iff.1 hwait))
  · rcases h.acceptances f (List.mem_of_getElem? hacceptance) with hready | hF
    · rw [hspurious] at hready
      cases hready
    · exact hF

end Socket

namespace Link

open Socket Effect

variable {F : Failure → Prop}

theorem Stops.accepted_eq_iff {s : Socket} {bytes : Bytes} {n : Nat} {outcome : Except Failure Unit}
    (h : Stops s bytes n outcome) :
    accepted (s.rounds bytes n) = bytes ↔ ∀ k < n, (s.round k).failure? = none := by
  have happend := s.accepted_append_left bytes n
  constructor
  · intro hall
    have hnone : s.left bytes n = [] := by
      rw [hall] at happend
      exact List.append_right_eq_self.1 happend
    cases outcome with
    | ok => exact (h.done rfl).2
    | error f =>
      -- The round that failed took nothing of what was left before it.
      obtain ⟨k, rfl, hleft, hfailure⟩ := h.failed f rfl
      rw [left, Round.accepted_of_failure hfailure] at hnone
      exact absurd hnone hleft
  · intro hgood
    cases outcome with
    | ok =>
      rw [(h.done rfl).1, List.append_nil] at happend
      exact happend
    | error f =>
      obtain ⟨k, rfl, -, hfailure⟩ := h.failed f rfl
      rw [hgood k (Nat.lt_succ_self k)] at hfailure
      cases hfailure

theorem accepting_send {s : Socket} (h : s.Accepting F) (bytes : Bytes) :
    ((send s.acceptances bytes).run s).state.Accepting F := by
  have hwaits : ∀ (s : Socket) outcome rest, s.Accepting F → s.waits = outcome :: rest →
      Accepting F { s with waits := rest } := fun _ _ _ hs => hs.of_waits
  have haccepts : ∀ (s' : Socket) rest, s'.Accepting F → rest <:+ s.acceptances →
      Accepting F { s' with acceptances := rest } := by
    intro s' rest hs hsuffix
    exact ⟨hs.hangs, hs.waits, fun f hf => h.acceptances f (hsuffix.mem hf)⟩
  exact (leads_send hwaits s.acceptances haccepts bytes s h).1

theorem accepting_connect {l : Link} (address : Address) (port : Int)
    (hopen : l.isOpen = true) (haccepting : l.socket.Accepting F) :
    let r := (connect address port).run l
    r.state.isOpen = true ∧ r.state.socket.Accepting F := by
  intro r
  have hwait : (onSocket Socket.waitWritable).Leads
      (fun l => l.isOpen = true ∧ l.socket.Accepting F) Effect.OfAttempt
      fun l => l.isOpen = true ∧ l.socket.Accepting F :=
    .on (leads_waitWritable trivial fun _ _ _ hs => hs.of_waits) (fun _ hl => hl.2)
      fun _ _ hl hs => ⟨hl.1, hs⟩
  exact (leads_connect address port hwait (fun _ hl => hl) l ⟨hopen, haccepting⟩).1

/-- For how many rounds a write goes on, and what it does in them. A failure of the system ends it
and is logged. -/
theorem write_spec {l : Link} (hopen : l.isOpen = true)
    (haccepting : l.socket.Accepting F) (hF : ∀ f, F f → f.IsSystem) (bytes : Bytes) :
    let r := (write bytes).run l
    r.outcome = .ok () ∧ (r.state.isOpen = true ∧ r.state.socket.Accepting F) ∧
      ∃ n outcome log, Stops l.socket bytes n outcome ∧
        r.events = l.socket.rounds bytes n ++ log ∧ ∀ e ∈ log, ∃ record, e = .logged record := by
  obtain ⟨n, hevents, hstops⟩ := exists_takes haccepting.hangs bytes
  have hsystem : ∀ f, ((send l.socket.acceptances bytes).run l.socket).outcome = .error f →
      f.IsSystem := by
    intro f hf
    obtain ⟨k, -, -, hfailure⟩ := hstops.failed f hf
    exact hF f (haccepting.of_failure hfailure)
  have hrun := run_write hopen bytes hsystem
  have hstate := accepting_send haccepting bytes
  simp only [hevents] at hrun
  rw [hrun]
  exact ⟨rfl, ⟨hopen, hstate⟩, n, _, _, hstops, rfl, fun e he => logged_of_mem_noted he⟩

/-- A write sends the bytes from the front, in order and each of them once. It sends all of them
unless waiting or sending fails, and then it sends nothing more. -/
theorem write_accepts_front {l : Link} (hopen : l.isOpen = true)
    (haccepting : l.socket.Accepting Failure.IsSystem) (bytes : Bytes) :
    let r := (write bytes).run l
    r.outcome = .ok () ∧ accepted r.events <+: bytes ∧ Waited r.events ∧
      ∃ n log, r.events = l.socket.rounds bytes n ++ log ∧
        (∀ e ∈ log, ∃ record, e = .logged record) ∧
        (accepted r.events = bytes ↔ ∀ k < n, (l.socket.round k).failure? = none) ∧
        (∀ k < n, (l.socket.round k).failure? ≠ none → k + 1 = n) ∧
        (∀ k ≤ n, accepted (l.socket.rounds bytes k) ++ l.socket.left bytes k = bytes) ∧
        ∀ k < n, (l.socket.round k).IsSpurious →
          l.socket.left bytes (k + 1) = l.socket.left bytes k := by
  intro r
  obtain ⟨houtcome, -, n, outcome, log, hstops, hevents, hlog⟩ :=
    write_spec hopen haccepting (fun _ hf => hf) bytes
  have happend := l.socket.accepted_append_left bytes
  have haccepted : accepted r.events = accepted (l.socket.rounds bytes n) := by
    rw [hevents, accepted_append, accepted_of_not_isSend (not_isSend_of_logged hlog),
      List.append_nil]
  have hwaited : Waited log := .of_not_isSend (not_isSend_of_logged hlog)
  refine ⟨houtcome, ?_, ?_, n, log, hevents, hlog, ?_, ?_, fun k _ => happend k, ?_⟩
  · rw [haccepted]
    exact ⟨_, happend n⟩
  · rw [hevents]
    exact (waited_rounds l.socket bytes n).append hwaited
  · rw [haccepted]
    exact hstops.accepted_eq_iff
  · intro k hk hfailure
    rcases Nat.lt_or_ge (k + 1) n with hlt | hge
    · exact absurd (hstops.goesOn k hlt) hfailure
    · omega
  · intro k _ hspurious
    rw [left, Round.accepted_of_isSpurious hspurious]
    rfl

/-- A write sends everything if no round of it can fail. -/
theorem write_all {l : Link} (hopen : l.isOpen = true)
    (haccepting : l.socket.Accepting fun _ => False) (bytes : Bytes) :
    let r := (write bytes).run l
    r.outcome = .ok () ∧ (r.state.isOpen = true ∧ r.state.socket.Accepting fun _ => False) ∧
      accepted r.events = bytes ∧
      ∀ e ∈ r.events, e = .waitWritable ∨ e.IsSend ∨ ∃ record, e = .logged record := by
  intro r
  obtain ⟨houtcome, hstate, n, outcome, log, hstops, hevents, hlog⟩ :=
    write_spec hopen haccepting (fun _ hf => hf.elim) bytes
  refine ⟨houtcome, hstate, ?_, ?_⟩
  · have hnone : ∀ k < n, (l.socket.round k).failure? = none := fun k _ =>
      Option.eq_none_iff_forall_ne_some.2 fun f hf => haccepting.of_failure hf
    rw [hevents, accepted_append, accepted_of_not_isSend (not_isSend_of_logged hlog),
      List.append_nil]
    exact hstops.accepted_eq_iff.2 hnone
  · intro e he
    rw [hevents] at he
    rcases List.mem_append.1 he with hrounds | hlogged
    · exact (mem_rounds hrounds).imp_right .inl
    · exact .inr (.inr (hlog e hlogged))

/-- A socket that takes two bytes, is not ready once, takes none once, and then fails. -/
theorem write_accepts_front_of_reset :
    let s : Socket := { silent with
      acceptances := [.upTo 2, .blocked, .upTo 0, .failed (.system ⟨.reset, []⟩), .upTo 9] }
    let r := (write [1, 2, 3, 4, 5]).run (.fresh standardChunk s)
    s.Accepting Failure.IsSystem ∧ r.outcome = .ok () ∧ accepted r.events = [1, 2] ∧
      accepted r.events <+: [1, 2, 3, 4, 5] := by
  intro s r
  have haccepting : s.Accepting Failure.IsSystem := by
    refine ⟨rfl, (fun f hf => by cases hf), fun f hf => .inr ?_⟩
    obtain rfl : f = .system ⟨.reset, []⟩ := by simpa [s] using hf
    trivial
  obtain ⟨houtcome, hfront, -⟩ :=
    write_accepts_front (l := .fresh standardChunk s) rfl haccepting [1, 2, 3, 4, 5]
  exact ⟨haccepting, houtcome, rfl, hfront⟩

end Link

end Telnet
