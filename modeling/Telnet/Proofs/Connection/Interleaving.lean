import Telnet.Proofs.Connection.Ordinary
import Telnet.Proofs.Connection.Stream

/-!
# Reading and looking, in any order

A connection is read from and asked for its status in any order. Each call goes on in what the
socket has to receive, or stays where it is (`Later`), and of two connections one of which is
further on, the same call leaves that one further on (`Behind.step`). So to ask for the status in
between loses nothing and repeats nothing: what is read then is at least what would have been read
without it (`used_returns_stream`).
-/

namespace Telnet

namespace Arrival

/-! ### Further on in what arrives -/

/-- The second list is what is left of the first one, further on: some items are used up, or some
bytes of the first item. Nothing goes on behind the end of the stream. -/
inductive Later : List Arrival → List Arrival → Prop where
  | same (arrivals : List Arrival) : Later arrivals arrivals
  | skip {a : Arrival} {rest later : List Arrival} (ha : a ≠ .ended) (h : Later rest later) :
    Later (a :: rest) later
  | part {bytes : Bytes} {n : Nat} (rest : List Arrival) (h : bytes.drop n ≠ []) :
    Later (.data bytes :: rest) (.data (bytes.drop n) :: rest)

namespace Later

variable {arrivals later last : List Arrival}

theorem trans (h : Later arrivals later) (h' : Later later last) : Later arrivals last := by
  induction h with
  | same => exact h'
  | skip ha _ ih => exact .skip ha (ih h')
  | part rest hdrop =>
    cases h' with
    | same => exact .part rest hdrop
    | skip _ h' => exact .skip (by simp) h'
    | part _ hdrop' =>
      rw [List.drop_drop] at hdrop' ⊢
      exact .part rest hdrop'

theorem unread_suffix (h : Later arrivals later) : unread later <:+ unread arrivals := by
  induction h with
  | same => exact List.suffix_rfl
  | @skip a rest later ha _ ih =>
    cases a with
    | data bytes => exact ih.trans (List.suffix_append bytes _)
    | blocked | failed => exact ih
    | ended => exact absurd rfl ha
  | @part bytes n rest _ =>
    obtain ⟨front, hfront⟩ := List.drop_suffix n bytes
    refine ⟨front, ?_⟩
    rw [unread, unread, ← List.append_assoc, hfront]

theorem take (limit : Nat) (arrivals : List Arrival) :
    Later arrivals (Socket.take limit arrivals).2 := by
  rcases arrivals with _ | ⟨a, rest⟩
  · exact .same _
  · cases a with
    | data bytes =>
      show Later _ (if (bytes.drop limit).isEmpty then rest else .data (bytes.drop limit) :: rest)
      by_cases hdrop : bytes.drop limit = []
      · rw [hdrop, List.isEmpty_nil, if_pos rfl]
        exact .skip (by simp) (.same rest)
      · rw [if_neg (by simpa using hdrop)]
        exact .part rest hdrop
    | blocked | failed => exact .skip (by simp) (.same rest)
    | ended => exact .same _

theorem peek (arrivals : List Arrival) : Later arrivals (Socket.peek arrivals).2 := by
  rcases arrivals with _ | ⟨a, rest⟩
  · exact .same _
  · cases a with
    | data | ended => exact .same _
    | blocked | failed => exact .skip (by simp) (.same rest)

theorem take_both (limit : Nat) (h : Later arrivals later) :
    Later (Socket.take limit arrivals).2 (Socket.take limit later).2 := by
  cases h with
  | same => exact .same _
  | @skip a rest _ ha h =>
    have hrest : Later rest (Socket.take limit later).2 := h.trans (take limit later)
    cases a with
    | data bytes =>
      show Later (if (bytes.drop limit).isEmpty then rest else .data (bytes.drop limit) :: rest) _
      split
      · exact hrest
      · exact .skip (by simp) hrest
    | blocked | failed => exact hrest
    | ended => exact absurd rfl ha
  | @part bytes n rest hdrop =>
    show Later (if (bytes.drop limit).isEmpty then rest else .data (bytes.drop limit) :: rest)
      (if ((bytes.drop n).drop limit).isEmpty then rest
        else .data ((bytes.drop n).drop limit) :: rest)
    -- An item that was begun is used up first, if any of the two is.
    have hcomm : (bytes.drop n).drop limit = (bytes.drop limit).drop n := by
      rw [List.drop_drop, List.drop_drop, Nat.add_comm]
    rw [hcomm]
    by_cases hnone : bytes.drop limit = []
    · rw [hnone, List.drop_nil]
      exact .same _
    · rw [if_neg (by simpa using hnone)]
      by_cases hrest : (bytes.drop limit).drop n = []
      · rw [hrest, List.isEmpty_nil, if_pos rfl]
        exact .skip (by simp) (.same rest)
      · rw [if_neg (by simpa using hrest)]
        exact .part rest hrest

theorem peek_both (h : Later arrivals later) :
    Later (Socket.peek arrivals).2 (Socket.peek later).2 := by
  cases h with
  | same => exact .same _
  | @skip a rest _ ha h =>
    have hrest : Later rest (Socket.peek later).2 := h.trans (peek later)
    cases a with
    | data bytes => exact .skip (by simp) hrest
    | blocked | failed => exact hrest
    | ended => exact absurd rfl ha
  | part rest hdrop => exact .part rest hdrop

end Later

end Arrival

namespace Link

open Arrival

/-- A connection is open, it fails with failures of the system only, and it knows no more about the
end of the stream than is true. -/
structure Intact (l : Link) : Prop where
  isOpen : l.isOpen = true
  chunk : 0 < l.chunk
  proper : Proper l.socket.arrivals
  system : ∀ f, .failed f ∈ l.socket.arrivals → f.IsSystem
  atEnd : l.ended = true → AtEnd l.socket.arrivals

variable {l l' : Link}

/-! ### One read -/

def most (l : Link) : Option Nat → Nat
  | none | some 0 => l.chunk
  | some n => n

theorem most_pos (h : Intact l) (limit : Option Nat) : 0 < l.most limit := by
  rcases limit with _ | _ | n
  · exact h.chunk
  · exact h.chunk
  · exact Nat.succ_pos n

theorem most_congr (h : l'.chunk = l.chunk) (limit : Option Nat) :
    l'.most limit = l.most limit := by
  rcases limit with _ | _ | n
  · exact h
  · exact h
  · rfl

theorem run_read_most (h : Intact l) (limit : Option Nat) :
    (read limit).run l = (read (some (l.most limit))).run l := by
  obtain ⟨n, hn⟩ : ∃ n, l.chunk = n + 1 := ⟨l.chunk - 1, by have := h.chunk; omega⟩
  rcases limit with _ | _ | _ <;> simp [read, most, Act.run_bind_eq, hn]

theorem Intact.tracks (h : Intact l) : Tracks l := ⟨h.proper, h.atEnd⟩

/-- What a read does: it goes on in the stream, and hands out what it went over. -/
theorem read_intact (h : Intact l) (limit : Option Nat) :
    let r := (read limit).run l
    let t := Socket.take (l.most limit) l.socket.arrivals
    r.state = l.after t.1 t.2 ∧ Intact r.state ∧
      (∃ chunk, r.outcome = .ok chunk) ∧ handed r.outcome = t.1.got ∧
      (r.outcome = .ok (some []) → r.state.ended = true) := by
  intro r t
  have hpos := most_pos h limit
  obtain ⟨hstate, houtcome⟩ := run_read h.isOpen hpos
  rw [← run_read_most h limit] at hstate houtcome
  have hfails := fun f => Socket.mem_take (f := f) (l.most limit) l.socket.arrivals
  have htracks := h.tracks.after_take hpos
  have hintact : Intact (l.after t.1 t.2) :=
    ⟨h.isOpen, h.chunk, htracks.proper, fun f hf => h.system f ((hfails f).2 hf), htracks.atEnd⟩
  have hr : r = (read limit).run l := rfl
  refine ⟨hstate, hstate ▸ hintact, ?_⟩
  rw [hr, hstate, houtcome]
  cases ht : t.1 with
  | bytes b =>
    refine ⟨⟨_, rfl⟩, rfl, fun hempty => ?_⟩
    cases hempty
    simp [Link.after]
  | blocked => exact ⟨⟨_, rfl⟩, rfl, fun hempty => by cases hempty⟩
  | failed f =>
    obtain ⟨e, rfl⟩ := (h.system f ((hfails f).1 ht)).eq_system
    exact ⟨⟨_, rfl⟩, rfl, fun hempty => by cases hempty⟩

/-! ### One look -/

/-- Nothing is looked at before it is connected, and nothing once the end of the stream was seen. -/
theorem run_status_settled (h : Intact l) (hsettled : l.connected = false ∨ l.ended = true) :
    status.run l = ⟨.ok (some (if l.connected then .ended else .unconnected)), l, []⟩ := by
  cases hconnected : l.connected with
  | false => simp [status, Act.run_bind_eq, h.isOpen, hconnected]
  | true =>
    have hended : l.ended = true := hsettled.resolve_left (by simp [hconnected])
    simp [status, Act.run_bind_eq, h.isOpen, hconnected, hended]

theorem peek_of_atEnd {arrivals : List Arrival} (h : AtEnd arrivals) :
    Socket.peek arrivals = (.bytes [], arrivals) := by
  obtain ⟨rest, rfl⟩ := h
  rfl

/-- What looking at the connection does: nothing is taken from the stream, and what stood before the
next byte is used up. -/
structure Looked (l : Link) : Prop where
  intact : Intact (status.run l).state
  answered : ∃ s, (status.run l).outcome = .ok (some s)
  chunk : (status.run l).state.chunk = l.chunk
  connected : (status.run l).state.connected = l.connected
  arrivals : (status.run l).state.socket.arrivals =
    if l.connected then (Socket.peek l.socket.arrivals).2 else l.socket.arrivals
  keeps : l.ended = true → (status.run l).state.ended = true
  ended : .receive 1 true ∈ (status.run l).events → AtEnd l.socket.arrivals →
    (status.run l).state.ended = true

theorem looked_settled (h : Intact l) (hsettled : l.connected = false ∨ l.ended = true) :
    l.Looked := by
  have hrun := run_status_settled h hsettled
  have harrivals : l.socket.arrivals =
      if l.connected then (Socket.peek l.socket.arrivals).2 else l.socket.arrivals := by
    rcases hsettled with hconnected | hended
    · rw [hconnected]
      rfl
    · rw [peek_of_atEnd (h.atEnd hended)]
      split <;> rfl
  refine ⟨?_, ?_, ?_, ?_, ?_, ?_, ?_⟩ <;> rw [hrun]
  · exact h
  · exact ⟨_, rfl⟩
  · exact harrivals
  · exact fun hended => hended
  · intro hmem
    cases hmem

theorem looked_at_socket (h : Intact l) (hconnected : l.connected = true)
    (hended : l.ended = false) : l.Looked := by
  obtain ⟨hstate, houtcome⟩ := run_status h.isOpen hconnected hended
  have hfails := fun f => Socket.mem_peek (f := f) l.socket.arrivals
  have htracks := h.tracks.after_peek hended
  refine ⟨?_, ?_, ?_, ?_, ?_, ?_, ?_⟩
  · rw [hstate]
    exact ⟨h.isOpen, h.chunk, htracks.proper, fun f hf => h.system f ((hfails f).2 hf),
      htracks.atEnd⟩
  · rw [houtcome]
    cases hpeek : (Socket.peek l.socket.arrivals).1 with
    | bytes b => exact ⟨_, rfl⟩
    | blocked => exact ⟨_, rfl⟩
    | failed f =>
      obtain ⟨e, rfl⟩ := (h.system f ((hfails f).1 hpeek)).eq_system
      exact ⟨_, rfl⟩
  · rw [hstate]
    rfl
  · rw [hstate]
    rfl
  · rw [hstate, hconnected]
    rfl
  · intro hended'
    rw [hended] at hended'
    cases hended'
  · intro _ hatEnd
    rw [hstate, peek_of_atEnd hatEnd]
    simp [Link.after]

theorem looked (h : Intact l) : l.Looked := by
  cases hconnected : l.connected with
  | false => exact looked_settled h (.inl hconnected)
  | true =>
    cases hended : l.ended with
    | true => exact looked_settled h (.inr hended)
    | false => exact looked_at_socket h hconnected hended

/-! ### Any call -/

inductive Use where
  | read (limit : Option Nat)
  | status
  deriving DecidableEq, Repr

inductive Answer where
  | chunk (bytes : Option Bytes)
  | status (s : Option Status)
  deriving DecidableEq, Repr

def Use.act : Use → Act Effect Link Answer
  | .read limit => Answer.chunk <$> Link.read limit
  | .status => Answer.status <$> Link.status

def Use.bytes : Except Failure Answer → Bytes
  | .ok (.chunk (some bytes)) => bytes
  | _ => []

def used (l : Link) : List Use → Link
  | [] => l
  | u :: us => (u.act.run l).state.used us

def returned (l : Link) : List Use → Bytes
  | [] => []
  | u :: us => Use.bytes (u.act.run l).outcome ++ (u.act.run l).state.returned us

/-- A read hands out the end of the stream, or a look at the connection finds it. -/
def MeetsEnd (l : Link) : Use → Prop
  | .read limit => ((read limit).run l).outcome = .ok (some [])
  | .status => .receive 1 true ∈ (status.run l).events ∧ AtEnd l.socket.arrivals

/-- What the socket has to receive after a call. -/
def leaves (l : Link) : Use → List Arrival
  | .read limit => (Socket.take (l.most limit) l.socket.arrivals).2
  | .status => if l.connected then (Socket.peek l.socket.arrivals).2 else l.socket.arrivals

structure Served (l : Link) (u : Use) : Prop where
  intact : Intact (u.act.run l).state
  answered : ∃ answer, (u.act.run l).outcome = .ok answer
  chunk : (u.act.run l).state.chunk = l.chunk
  connected : (u.act.run l).state.connected = l.connected
  arrivals : (u.act.run l).state.socket.arrivals = l.leaves u
  stream : Use.bytes (u.act.run l).outcome ++ (u.act.run l).state.unread = l.unread
  ended : l.ended = true ∨ l.MeetsEnd u → (u.act.run l).state.ended = true

theorem served_read (h : Intact l) (limit : Option Nat) : l.Served (.read limit) := by
  obtain ⟨hstate, hintact, ⟨chunk, hok⟩, hhanded, hend⟩ := read_intact h limit
  have hrun : (Use.read limit).act.run l =
      ⟨.ok (.chunk chunk), ((read limit).run l).state, ((read limit).run l).events⟩ := by
    rw [Use.act, Act.run_map, hok]
    rfl
  have hbytes : Use.bytes (.ok (.chunk chunk)) = handed ((read limit).run l).outcome := by
    rw [hok]
    cases chunk <;> rfl
  have hstream := Socket.got_append_take (l.most limit) l.socket.arrivals
  refine ⟨?_, ?_, ?_, ?_, ?_, ?_, ?_⟩ <;> rw [hrun]
  · exact hintact
  · exact ⟨_, rfl⟩
  · rw [hstate]
    rfl
  · rw [hstate]
    rfl
  · rw [hstate]
    rfl
  · rw [hbytes, hhanded, hstate]
    exact hstream
  · intro hmeets
    rcases hmeets with hended | hmeets
    · rw [hstate]
      simp [Link.after, hended]
    · exact hend hmeets

theorem served_status (h : Intact l) : l.Served .status := by
  have hlooked := looked h
  obtain ⟨s, hok⟩ := hlooked.answered
  have hrun : Use.status.act.run l =
      ⟨.ok (.status (some s)), (status.run l).state, (status.run l).events⟩ := by
    rw [Use.act, Act.run_map, hok]
    rfl
  refine ⟨?_, ?_, ?_, ?_, ?_, ?_, ?_⟩ <;> rw [hrun]
  · exact hlooked.intact
  · exact ⟨_, rfl⟩
  · exact hlooked.chunk
  · exact hlooked.connected
  · exact hlooked.arrivals
  · show Arrival.unread (status.run l).state.socket.arrivals = Arrival.unread l.socket.arrivals
    rw [hlooked.arrivals]
    split
    · exact Socket.unread_peek l.socket.arrivals
    · rfl
  · intro hended
    rcases hended with hended | ⟨hlooks, hatEnd⟩
    · exact hlooked.keeps hended
    · exact hlooked.ended hlooks hatEnd

theorem served (h : Intact l) (u : Use) : l.Served u := by
  cases u with
  | read limit => exact served_read h limit
  | status => exact served_status h

/-! ### Many calls -/

theorem used_append (l : Link) (us more : List Use) :
    l.used (us ++ more) = (l.used us).used more := by
  induction us generalizing l with
  | nil => rfl
  | cons u us ih => exact ih _

theorem Intact.used (h : Intact l) (us : List Use) :
    Intact (l.used us) ∧ (l.used us).chunk = l.chunk ∧
      (l.ended = true → (l.used us).ended = true) := by
  induction us generalizing l with
  | nil => exact ⟨h, rfl, fun hended => hended⟩
  | cons u us ih =>
    have hserved := served h u
    obtain ⟨hintact, hchunk, hended⟩ := ih hserved.intact
    exact ⟨hintact, hchunk.trans hserved.chunk, fun hold => hended (hserved.ended (.inl hold))⟩

/-- What was handed out and what there is still to hand out make up the stream. -/
theorem returned_append_unread (h : Intact l) (us : List Use) :
    l.returned us ++ (l.used us).unread = l.unread := by
  induction us generalizing l with
  | nil => rfl
  | cons u us ih =>
    have hserved := served h u
    rw [returned, used, List.append_assoc, ih hserved.intact]
    exact hserved.stream

/-! ### Two connections -/

/-- The second connection is further on in the same stream. -/
structure Behind (l l' : Link) : Prop where
  intact : Intact l
  ahead : Intact l'
  chunk : l'.chunk = l.chunk
  connected : l'.connected = l.connected
  later : Later l.socket.arrivals l'.socket.arrivals

/-- The same call keeps the second connection further on. -/
theorem Behind.step (h : Behind l l') (u : Use) :
    Behind (u.act.run l).state (u.act.run l').state := by
  have hserved := served h.intact u
  have hserved' := served h.ahead u
  have hlater : Later (l.leaves u) (l'.leaves u) := by
    cases u with
    | read limit =>
      rw [leaves, leaves, most_congr h.chunk]
      exact Later.take_both _ h.later
    | status =>
      rw [leaves, leaves, h.connected]
      split
      · exact Later.peek_both h.later
      · exact h.later
  refine ⟨hserved.intact, hserved'.intact, ?_, ?_, ?_⟩
  · rw [hserved.chunk, hserved'.chunk, h.chunk]
  · rw [hserved.connected, hserved'.connected, h.connected]
  · rw [hserved.arrivals, hserved'.arrivals]
    exact hlater

/-- To ask the second connection for its status keeps it further on. -/
theorem Behind.look (h : Behind l l') : Behind l (Use.status.act.run l').state := by
  have hserved := served h.ahead .status
  refine ⟨h.intact, hserved.intact, hserved.chunk.trans h.chunk,
    hserved.connected.trans h.connected, ?_⟩
  rw [hserved.arrivals, leaves]
  split
  · exact h.later.trans (Later.peek _)
  · exact h.later

/-- The second list has the calls of the first one, in order, with questions for the status put in
between. -/
inductive Spaced : List Use → List Use → Prop where
  | nil : Spaced [] []
  | both (u : Use) {us us' : List Use} (h : Spaced us us') : Spaced (u :: us) (u :: us')
  | look {us us' : List Use} (h : Spaced us us') : Spaced us (.status :: us')

theorem Behind.used (h : Behind l l') {us us' : List Use} (hspaced : Spaced us us') :
    Behind (l.used us) (l'.used us') := by
  induction hspaced generalizing l l' with
  | nil => exact h
  | both u _ ih => exact ih (h.step u)
  | look _ ih => exact ih h.look

theorem returned_of_spaced (h : Intact l) {us us' : List Use} (hspaced : Spaced us us') :
    l.returned us <+: l.returned us' := by
  -- The same connection is used twice. Both times what was handed out and what is left make up the
  -- stream, and less is left the second time.
  have hsame : Behind l l := ⟨h, h, rfl, rfl, .same _⟩
  have hstream := returned_append_unread h us
  have hstream' := returned_append_unread h us'
  obtain ⟨front, hfront⟩ : (l.used us').unread <:+ (l.used us).unread :=
    (hsame.used hspaced).later.unread_suffix
  refine ⟨front, ?_⟩
  rw [← hfront, ← hstream', ← List.append_assoc] at hstream
  exact List.append_cancel_right hstream

/-! ### The end of the stream -/

theorem read_most (h : Intact l) {limit : Option Nat} {bytes : Bytes}
    (hread : ((read limit).run l).outcome = .ok (some bytes)) :
    bytes.length ≤ l.most limit ∧ (bytes = [] → l.unread = []) := by
  obtain ⟨-, -, -, hhanded, -⟩ := read_intact h limit
  have hserved := served h (.read limit)
  rw [hread] at hhanded
  change bytes = _ at hhanded
  constructor
  · rw [hhanded]
    exact Socket.length_got_take _ _
  · intro hnil
    have hended := hserved.ended (.inr (by rw [MeetsEnd, hread, hnil]))
    have hnone := unread_of_atEnd (hserved.intact.atEnd hended)
    have hbytes : Use.bytes ((Use.read limit).act.run l).outcome = [] := by
      rw [Use.act, Act.run_map, hread, hnil]
      rfl
    rw [← hserved.stream, hbytes, List.nil_append]
    exact hnone

/-- Once the end of the stream was met, the connection counts as closed without being looked at. -/
theorem status_of_ended (h : Intact l) (hended : l.ended = true) (us : List Use) :
    let r := status.run (l.used us)
    r.events = [] ∧ ∃ s, r.outcome = .ok (some s) ∧ s.isClosed = true := by
  intro r
  obtain ⟨hintact, -, hkeeps⟩ := h.used us
  have hrun : r = _ := run_status_settled hintact (.inr (hkeeps hended))
  rw [hrun]
  refine ⟨rfl, _, rfl, ?_⟩
  split <;> rfl

/-- Whatever order it is read from and looked at in, a connection hands out its stream from the
front, and it never asks the socket again once it met the end. To look at it more often loses
nothing and repeats nothing. -/
theorem used_returns_stream (h : Intact l) (us : List Use) :
    let l' := l.used us
    l.returned us ++ l'.unread = l.unread ∧
      (∀ u : Use, ∃ answer, (u.act.run l').outcome = .ok answer) ∧
      (∀ limit bytes, ((read limit).run l').outcome = .ok (some bytes) →
        bytes.length ≤ l.most limit ∧ (bytes = [] → l.returned us = l.unread)) ∧
      (∀ u more, l'.MeetsEnd u →
        let r := status.run (l.used (us ++ u :: more))
        r.events = [] ∧ ∃ s, r.outcome = .ok (some s) ∧ s.isClosed = true) ∧
      ∀ us', Spaced us us' → l.returned us <+: l.returned us' := by
  intro l'
  obtain ⟨hintact, hchunk, -⟩ := h.used us
  have hstream := returned_append_unread h us
  refine ⟨hstream, fun u => (served hintact u).answered, ?_, ?_, fun us' => returned_of_spaced h⟩
  · intro limit bytes hread
    obtain ⟨hlength, hend⟩ := read_most hintact hread
    rw [most_congr hchunk] at hlength
    refine ⟨hlength, fun hnil => ?_⟩
    rw [hend hnil, List.append_nil] at hstream
    exact hstream
  · intro u more hmeets
    have hserved := served hintact u
    rw [used_append]
    exact status_of_ended hserved.intact (hserved.ended (.inr hmeets)) more

/-- A question for the status uses up what stood before the data. -/
theorem used_returns_stream_after_look :
    let reset : Failure := .system ⟨.reset, []⟩
    let s : Socket := { Socket.silent with
      arrivals := [.failed reset, .data [1, 2, 3], .blocked, .data [4], .ended] }
    let l : Link := { fresh 2 s with connected := true }
    let us : List Use := [.read none, .read none]
    let us' : List Use := [.status, .read none, .status, .read none]
    Intact l ∧ l.returned us = [1, 2] ∧ l.returned us' = [1, 2, 3] ∧
      l.returned us <+: l.returned us' ∧ l.returned us' ++ (l.used us').unread = [1, 2, 3, 4] := by
  intro reset s l us us'
  have hsystem : ∀ f, .failed f ∈ s.arrivals → f.IsSystem := by
    intro f hf
    obtain rfl : f = reset := by simpa [s] using hf
    trivial
  have hproper : Arrival.Proper s.arrivals := by
    intro bytes hbytes
    rcases (by simpa [s] using hbytes : bytes = [1, 2, 3] ∨ bytes = [4]) with rfl | rfl
    · simp
    · simp
  have hintact : Intact l := ⟨rfl, by decide, hproper, hsystem, fun hended => by cases hended⟩
  have hspaced : Spaced us us' := .look (.both _ (.look (.both _ .nil)))
  obtain ⟨-, -, -, -, hmore⟩ := used_returns_stream hintact us
  obtain ⟨hstream, -⟩ := used_returns_stream hintact us'
  exact ⟨hintact, rfl, rfl, hmore us' hspaced, hstream⟩

end Link

end Telnet
