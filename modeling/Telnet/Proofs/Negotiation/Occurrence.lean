import Mathlib.Data.List.Induction
import Mathlib.Data.List.Nodup
import Mathlib.Data.List.Perm.Subperm
import Telnet.Negotiation.Proposal

/-!
# Where proposals occur

A stream of bytes holds each of the three proposals at certain places, and it arrives in chunks. An
occurrence whose bytes lie in one chunk can be answered, one that a chunk boundary cuts cannot.

The escape byte stands only at the front of a proposal, so a stream is in one way only a sequence of
proposals and of other bytes (`Stream.induction`). Hence occurrences never overlap
(`pairwise_answered`), and `answered` lists those that lie in one chunk (`mem_answered`).
-/

namespace Telnet

/-! ### The bytes that travel -/

def Proposal.wire : Proposal → Bytes
  | .terminalType => [0xff, 0xfd, 0x18]
  | .remoteEcho => [0xff, 0xfb, 0x01]
  | .noRemoteEcho => [0xff, 0xfc, 0x01]

def Proposal.wireReply (term : TerminalType) : Proposal → Bytes
  | .terminalType => [0xff, 0xfa, 0x18, 0x00] ++ term.bytes ++ [0xff, 0xf0]
  | .remoteEcho => [0xff, 0xfd, 0x01]
  | .noRemoteEcho => [0xff, 0xfe, 0x01]

theorem Proposal.bytes_eq (p : Proposal) : p.bytes = p.wire := by
  cases p <;> rfl

theorem Proposal.reply_eq (term : TerminalType) (p : Proposal) :
    p.reply term = p.wireReply term := by
  cases p <;> rfl

@[simp] theorem Proposal.length_wire (p : Proposal) : p.wire.length = 3 := by
  cases p <;> rfl

/-- The escape byte stands only at the front of a proposal. -/
theorem Proposal.exists_wire (p : Proposal) : ∃ command option, p.wire = [0xff, command, option] ∧
    command ≠ Command.escape.code ∧ option ≠ Command.escape.code := by
  cases p <;> exact ⟨_, _, rfl, by decide, by decide⟩

theorem Proposal.wire_ne_nil (p : Proposal) : p.wire ≠ [] := by
  cases p <;> simp [wire]

def Proposal.front? : Bytes → Option Proposal
  | b :: command :: option :: _ =>
    if b = Command.escape.code then Proposal.ofBytes? command option else none
  | _ => none

theorem Proposal.ofBytes?_eq_some_iff (command option : UInt8) (p : Proposal) :
    ofBytes? command option = some p ↔ p.wire = [0xff, command, option] := by
  constructor
  · intro h
    have hcodes : p.command.code = command ∧ p.option.code = option := by
      simpa using List.find?_some h
    rw [← hcodes.1, ← hcodes.2]
    cases p <;> rfl
  · intro h
    cases p with
    | terminalType | remoteEcho | noRemoteEcho =>
      simp only [wire, List.cons.injEq, true_and, and_true] at h
      rw [← h.1, ← h.2]
      rfl

theorem Proposal.front?_eq_some_iff (s : Bytes) (p : Proposal) :
    front? s = some p ↔ p.wire <+: s := by
  rcases s with _ | ⟨b, _ | ⟨command, _ | ⟨option, rest⟩⟩⟩
  · simp [front?, List.prefix_nil, wire_ne_nil]
  · cases p <;> simp [front?, wire]
  · cases p <;> simp [front?, wire]
  · have hsame : p.wire <+: b :: command :: option :: rest ↔ p.wire = [b, command, option] := by
      cases p <;> simp [wire]
    rw [hsame, front?]
    split
    · rename_i hb
      rw [ofBytes?_eq_some_iff, hb]
      rfl
    · rename_i hb
      simp only [reduceCtorEq, false_iff]
      intro hwire
      cases p <;> simp_all [wire, Command.code]

/-! ### A stream as proposals and other bytes -/

namespace Stream

theorem front?_triple (p : Proposal) (rest : Bytes) : Proposal.front? (p.wire ++ rest) = some p :=
  (Proposal.front?_eq_some_iff _ p).2 (List.prefix_append p.wire rest)

/-- A stream is empty, or starts with a proposal, or starts with a byte that is passed on. -/
theorem induction {motive : Bytes → Prop} (nil : motive [])
    (triple : ∀ (p : Proposal) (rest : Bytes), motive rest → motive (p.wire ++ rest))
    (other : ∀ b rest, Proposal.front? (b :: rest) = none → motive rest → motive (b :: rest))
    (s : Bytes) : motive s := by
  induction h : s.length using Nat.strongRecOn generalizing s with
  | ind n ih =>
    cases s with
    | nil => exact nil
    | cons b rest =>
      cases hf : Proposal.front? (b :: rest) with
      | none => exact other b rest hf (ih rest.length (by simp [← h]) rest rfl)
      | some p =>
        obtain ⟨after, hafter⟩ := (Proposal.front?_eq_some_iff _ p).1 hf
        have hlen : after.length < n := by
          have hsum := congrArg List.length hafter
          simp only [List.length_append, Proposal.length_wire] at hsum
          omega
        rw [← hafter]
        exact triple p after (ih after.length hlen after rfl)

end Stream

/-! ### Occurrences -/

structure Occurrence where
  place : Nat
  proposal : Proposal
  deriving DecidableEq, Repr

namespace Occurrence

def In (o : Occurrence) (s : Bytes) : Prop := o.proposal.wire <+: s.drop o.place

def Whole (o : Occurrence) (chunks : List Bytes) : Prop :=
  ∃ before chunk after, chunks = before ++ chunk :: after ∧
    before.flatten.length ≤ o.place ∧ o.place + 3 ≤ before.flatten.length + chunk.length

/-- A chunk boundary lies between two of the three bytes. -/
def Cut (o : Occurrence) (chunks : List Bytes) : Prop :=
  ∃ before after, chunks = before ++ after ∧
    o.place < before.flatten.length ∧ before.flatten.length < o.place + 3

/-- The bytes stand in the stream and lie inside one of its chunks. -/
def Answered (o : Occurrence) (chunks : List Bytes) : Prop := o.In chunks.flatten ∧ o.Whole chunks

def shift (count : Nat) (o : Occurrence) : Occurrence := ⟨o.place + count, o.proposal⟩

def covers (o : Occurrence) (i : Nat) : Bool := decide (o.place ≤ i) && decide (i < o.place + 3)

@[simp] theorem shift_place (count : Nat) (o : Occurrence) :
    (o.shift count).place = o.place + count := rfl

@[simp] theorem shift_proposal (count : Nat) (o : Occurrence) :
    (o.shift count).proposal = o.proposal := rfl

theorem shift_injective (count : Nat) : Function.Injective (shift count) := by
  intro a b h
  cases a
  cases b
  simp only [shift, mk.injEq, Nat.add_right_cancel_iff] at h ⊢
  exact h

theorem covers_iff (o : Occurrence) (i : Nat) :
    o.covers i = true ↔ o.place ≤ i ∧ i < o.place + 3 := by
  rw [covers, Bool.and_eq_true, decide_eq_true_iff, decide_eq_true_iff]

theorem covers_shift (count : Nat) (o : Occurrence) (i : Nat) :
    (o.shift count).covers (count + i) = o.covers i := by
  simp only [covers, shift_place]
  congr 1 <;> exact decide_eq_decide.2 (by omega)

theorem In.le_length {o : Occurrence} {s : Bytes} (h : o.In s) : o.place + 3 ≤ s.length := by
  have hle := h.length_le
  rw [Proposal.length_wire, List.length_drop] at hle
  omega

theorem in_shift_append (o : Occurrence) (s t : Bytes) :
    (o.shift s.length).In (s ++ t) ↔ o.In t := by
  have hdrop : (s ++ t).drop (o.place + s.length) = t.drop o.place := by
    rw [Nat.add_comm, ← List.drop_drop, List.drop_left]
  simp only [In, shift_place, shift_proposal, hdrop]

theorem in_append_left (o : Occurrence) (s t : Bytes) (h : o.place + 3 ≤ s.length) :
    o.In (s ++ t) ↔ o.In s := by
  have hdrop : (s ++ t).drop o.place = s.drop o.place ++ t :=
    List.drop_append_of_le_length (by omega)
  simp only [In, hdrop]
  constructor
  · intro hp
    refine List.prefix_of_prefix_length_le hp (List.prefix_append _ _) ?_
    rw [Proposal.length_wire, List.length_drop]
    omega
  · intro hp
    exact hp.trans (List.prefix_append _ _)

/-- What ends inside the stream lies in one chunk unless a boundary cuts it. -/
theorem whole_iff_not_cut (o : Occurrence) (chunks : List Bytes)
    (h : o.place + 3 ≤ chunks.flatten.length) : o.Whole chunks ↔ ¬ o.Cut chunks := by
  constructor
  · rintro ⟨before, chunk, after, rfl, hstart, hend⟩ ⟨front, back, hsplit, hlt, hgt⟩
    rcases List.append_eq_append_iff.1 hsplit with ⟨mid, hfront, -⟩ | ⟨mid, hbefore, -⟩
    · cases mid with
      | nil =>
        rw [hfront, List.append_nil] at hlt
        omega
      | cons c mid =>
        have hc : c = chunk := by simp_all
        rw [hfront, hc, List.flatten_append, List.flatten_cons] at hgt
        simp only [List.length_append] at hgt
        omega
    · rw [hbefore, List.flatten_append, List.length_append] at hstart
      omega
  · intro hcut
    -- From the back: either the last chunk holds all three bytes or the chunks before it do.
    induction chunks using List.reverseRecOn with
    | nil => simp at h
    | append_singleton front chunk ih =>
      rw [List.flatten_append, List.flatten_singleton, List.length_append] at h
      by_cases hlast : front.flatten.length ≤ o.place
      · exact ⟨front, chunk, [], rfl, hlast, h⟩
      · have hfront : o.place + 3 ≤ front.flatten.length := by
          by_contra hn
          exact hcut ⟨front, [chunk], rfl, by omega, by omega⟩
        obtain ⟨before, c, after, rfl, hstart, hend⟩ := ih hfront (by
          rintro ⟨a, b, rfl, ha⟩
          exact hcut ⟨a, b ++ [chunk], by simp, ha⟩)
        exact ⟨before, c, after ++ [chunk], by simp, hstart, hend⟩

end Occurrence

/-! ### All occurrences -/

def occurrences : Bytes → List Occurrence
  | [] => []
  | b :: rest =>
    (Proposal.front? (b :: rest)).toList.map (fun p => ⟨0, p⟩) ++
      (occurrences rest).map (Occurrence.shift 1)

def answered : List Bytes → List Occurrence
  | [] => []
  | chunk :: rest => occurrences chunk ++ (answered rest).map (Occurrence.shift chunk.length)

theorem occurrences_other (b : UInt8) (rest : Bytes) (h : Proposal.front? (b :: rest) = none) :
    occurrences (b :: rest) = (occurrences rest).map (Occurrence.shift 1) := by
  rw [occurrences, h]
  rfl

/-- No proposal starts inside another one, as neither its command nor its option is an escape. -/
theorem occurrences_triple (p : Proposal) (rest : Bytes) :
    occurrences (p.wire ++ rest) = ⟨0, p⟩ :: (occurrences rest).map (Occurrence.shift 3) := by
  have hfront := Stream.front?_triple p rest
  obtain ⟨command, option, hwire, hc, ho⟩ := p.exists_wire
  rw [hwire] at hfront ⊢
  simp only [List.cons_append, List.nil_append] at hfront ⊢
  have hsecond : Proposal.front? (command :: option :: rest) = none := by
    cases rest <;> simp [Proposal.front?, hc]
  have hthird : Proposal.front? (option :: rest) = none := by
    rcases rest with _ | ⟨a, _ | ⟨b, rest⟩⟩ <;> simp [Proposal.front?, ho]
  rw [occurrences, hfront, occurrences_other _ _ hsecond, occurrences_other _ _ hthird]
  simp only [Option.toList_some, List.map_cons, List.map_nil, List.singleton_append, List.map_map]
  congr 2

theorem mem_occurrences (o : Occurrence) (s : Bytes) : o ∈ occurrences s ↔ o.In s := by
  induction s generalizing o with
  | nil => simp [occurrences, Occurrence.In, List.prefix_nil, Proposal.wire_ne_nil]
  | cons b rest ih =>
    obtain ⟨place, p⟩ := o
    simp only [occurrences, List.mem_append, List.mem_map, Option.mem_toList]
    cases place with
    | zero =>
      rw [Occurrence.In, List.drop_zero, ← Proposal.front?_eq_some_iff]
      simp [Occurrence.shift]
    | succ place =>
      have hdrop : (⟨place + 1, p⟩ : Occurrence).In (b :: rest) ↔
          (⟨place, p⟩ : Occurrence).In rest := Iff.rfl
      rw [hdrop, ← ih]
      constructor
      · rintro (h | ⟨a, ha, heq⟩)
        · simp at h
        · have haeq : a = ⟨place, p⟩ := Occurrence.shift_injective 1 heq
          exact haeq ▸ ha
      · intro h
        exact .inr ⟨⟨place, p⟩, h, rfl⟩

theorem mem_answered (o : Occurrence) (chunks : List Bytes) :
    o ∈ answered chunks ↔ o.Answered chunks := by
  induction chunks generalizing o with
  | nil => simp [answered, Occurrence.Answered, Occurrence.Whole]
  | cons chunk rest ih =>
    simp only [answered, List.mem_append, List.mem_map, mem_occurrences, Occurrence.Answered,
      List.flatten_cons]
    constructor
    -- An occurrence is in the first chunk, or it is one of the others with this chunk in front.
    · rintro (hin | ⟨a, ha, rfl⟩)
      · have hle := hin.le_length
        exact ⟨(Occurrence.in_append_left o chunk _ hle).2 hin, [], chunk, rest, rfl, by simp,
          by simpa using hle⟩
      · obtain ⟨hin, before, c, after, rfl, hstart, hend⟩ := (ih a).1 ha
        refine ⟨(Occurrence.in_shift_append a chunk _).2 hin,
          chunk :: before, c, after, rfl, ?_, ?_⟩
        · simp only [List.flatten_cons, List.length_append, Occurrence.shift_place]
          omega
        · simp only [List.flatten_cons, List.length_append, Occurrence.shift_place]
          omega
    · rintro ⟨hin, before, c, after, hchunks, hstart, hend⟩
      cases before with
      | nil =>
        have hc : chunk = c := (List.cons.inj hchunks).1
        have hle : o.place + 3 ≤ chunk.length := by simpa [hc] using hend
        exact .inl ((Occurrence.in_append_left o chunk _ hle).1 hin)
      | cons first before =>
        obtain ⟨rfl, rfl⟩ := List.cons.inj hchunks
        simp only [List.flatten_cons, List.length_append] at hstart hend
        have hshift :
            o = (⟨o.place - chunk.length, o.proposal⟩ : Occurrence).shift chunk.length := by
          cases o
          simp only [Occurrence.shift, Occurrence.mk.injEq, and_true] at hstart ⊢
          omega
        refine .inr ⟨⟨o.place - chunk.length, o.proposal⟩,
          (ih _).2 ⟨?_, before, c, after, rfl, ?_, ?_⟩, hshift.symm⟩
        · rw [hshift] at hin
          exact (Occurrence.in_shift_append _ _ _).1 hin
        · show before.flatten.length ≤ o.place - chunk.length
          omega
        · show o.place - chunk.length + 3 ≤ before.flatten.length + c.length
          omega

/-! ### Occurrences do not overlap -/

theorem pairwise_map_shift {found : List Occurrence} (count : Nat)
    (h : found.Pairwise fun a b => a.place + 3 ≤ b.place) :
    (found.map (Occurrence.shift count)).Pairwise fun a b => a.place + 3 ≤ b.place := by
  refine List.pairwise_map.2 (h.imp ?_)
  intro a b hab
  simp only [Occurrence.shift_place]
  omega

theorem pairwise_occurrences (s : Bytes) :
    (occurrences s).Pairwise fun a b => a.place + 3 ≤ b.place := by
  induction s using Stream.induction with
  | nil => exact .nil
  | triple p rest ih =>
    rw [occurrences_triple]
    refine .cons ?_ (pairwise_map_shift 3 ih)
    intro o ho
    obtain ⟨a, -, rfl⟩ := List.mem_map.1 ho
    simp only [Occurrence.shift_place]
    omega
  | other b rest h ih =>
    rw [occurrences_other b rest h]
    exact pairwise_map_shift 1 ih

theorem pairwise_answered (chunks : List Bytes) :
    (answered chunks).Pairwise fun a b => a.place + 3 ≤ b.place := by
  induction chunks with
  | nil => exact .nil
  | cons chunk rest ih =>
    refine List.pairwise_append.2 ⟨pairwise_occurrences chunk, pairwise_map_shift _ ih, ?_⟩
    intro a ha b hb
    obtain ⟨b, -, rfl⟩ := List.mem_map.1 hb
    have hle := ((mem_occurrences a chunk).1 ha).le_length
    simp only [Occurrence.shift_place]
    omega

theorem nodup_answered (chunks : List Bytes) : (answered chunks).Nodup := by
  refine (pairwise_answered chunks).imp ?_
  rintro a b hab rfl
  omega

theorem answered_singleton (s : Bytes) : answered [s] = occurrences s := by
  simp only [answered, List.map_nil, List.append_nil]

theorem answered_eq_occurrences_iff (chunks : List Bytes) :
    answered chunks = occurrences chunks.flatten ↔
      ∀ o : Occurrence, o.In chunks.flatten → ¬ o.Cut chunks := by
  constructor
  · intro h o hin
    have hanswered : o ∈ answered chunks := h ▸ (mem_occurrences o _).2 hin
    exact (o.whole_iff_not_cut chunks hin.le_length).1 ((mem_answered o chunks).1 hanswered).2
  · intro h
    have hmem : ∀ o, o ∈ answered chunks ↔ o ∈ occurrences chunks.flatten := by
      intro o
      rw [mem_answered, mem_occurrences]
      constructor
      · exact And.left
      · intro hin
        exact ⟨hin, (o.whole_iff_not_cut chunks hin.le_length).2 (h o hin)⟩
    have hnodup : (occurrences chunks.flatten).Nodup := answered_singleton _ ▸ nodup_answered _
    have hperm := (List.perm_ext_iff_of_nodup (nodup_answered chunks) hnodup).2 hmem
    refine hperm.eq_of_pairwise ?_ (pairwise_answered chunks) (pairwise_occurrences _)
    intro a b _ _ hab hba
    omega

/-- If as many are answered as occur, all are. -/
theorem eq_of_answered_length (chunks : List Bytes)
    (h : (occurrences chunks.flatten).length ≤ (answered chunks).length) :
    answered chunks = occurrences chunks.flatten := by
  have hsub : answered chunks ⊆ occurrences chunks.flatten := by
    intro o ho
    exact (mem_occurrences o _).2 ((mem_answered o chunks).1 ho).1
  have hperm := ((nodup_answered chunks).subperm hsub).perm_of_length_le h
  refine hperm.eq_of_pairwise ?_ (pairwise_answered chunks) (pairwise_occurrences _)
  intro a b _ _ hab hba
  omega

/-! ### What is left of a stream -/

def covered (found : List Occurrence) (i : Nat) : Bool := found.any (·.covers i)

/-- The bytes of a stream at the places that no occurrence of a list covers. -/
def without (s : Bytes) (found : List Occurrence) : Bytes :=
  (s.zipIdx.filter fun b => !covered found b.2).map Prod.fst

theorem covered_front (found later : List Occurrence) {count i : Nat} (h : i < count) :
    covered (found ++ later.map (Occurrence.shift count)) i = covered found i := by
  have hlater : covered (later.map (Occurrence.shift count)) i = false := by
    rw [covered, List.any_map, List.any_eq_false]
    intro o _
    rw [Function.comp_apply, Occurrence.covers_iff, Occurrence.shift_place]
    omega
  rw [covered, List.any_append]
  rw [covered] at hlater
  rw [hlater, Bool.or_false, covered]

theorem covered_back (found later : List Occurrence) {count : Nat} (i : Nat)
    (h : ∀ o ∈ found, o.place + 3 ≤ count) :
    covered (found ++ later.map (Occurrence.shift count)) (count + i) = covered later i := by
  have hfound : covered found (count + i) = false := by
    rw [covered, List.any_eq_false]
    intro o ho
    have hle := h o ho
    rw [Occurrence.covers_iff]
    omega
  rw [covered, List.any_append]
  rw [covered] at hfound
  rw [hfound, Bool.false_or, List.any_map, covered]
  simp only [Function.comp_def, Occurrence.covers_shift]

/-- Two parts of a stream may be treated one after the other if the occurrences of the first one end
in it. -/
theorem without_append (s t : Bytes) (found later : List Occurrence)
    (h : ∀ o ∈ found, o.place + 3 ≤ s.length) :
    without (s ++ t) (found ++ later.map (Occurrence.shift s.length)) =
      without s found ++ without t later := by
  have hfirst : ∀ b ∈ s.zipIdx,
      (!covered (found ++ later.map (Occurrence.shift s.length)) b.2) = !covered found b.2 := by
    intro b hb
    have hlt := List.snd_lt_of_mem_zipIdx hb
    rw [covered_front found later (by omega)]
  have hsecond : t.zipIdx s.length = t.zipIdx.map fun b => (b.1, s.length + b.2) :=
    List.zipIdx_eq_map_add
  simp only [without, List.zipIdx_append, Nat.zero_add, List.filter_append, List.map_append]
  rw [List.filter_congr hfirst, hsecond, List.filter_map, List.map_map]
  simp only [Function.comp_def, covered_back found later _ h]

theorem without_triple (p : Proposal) (rest : Bytes) (later : List Occurrence) :
    without (p.wire ++ rest) (⟨0, p⟩ :: later.map (Occurrence.shift 3)) = without rest later := by
  have happend := without_append p.wire rest [⟨0, p⟩] later (by simp)
  have hgone : without p.wire [⟨0, p⟩] = [] := by cases p <;> rfl
  rw [Proposal.length_wire, List.singleton_append, hgone, List.nil_append] at happend
  exact happend

theorem without_other (b : UInt8) (rest : Bytes) (later : List Occurrence) :
    without (b :: rest) (later.map (Occurrence.shift 1)) = b :: without rest later :=
  without_append [b] rest [] later (by simp)

theorem without_answered_cons (chunk : Bytes) (rest : List Bytes) :
    without (chunk ++ rest.flatten) (answered (chunk :: rest)) =
      without chunk (occurrences chunk) ++ without rest.flatten (answered rest) := by
  refine without_append chunk rest.flatten (occurrences chunk) (answered rest) ?_
  intro o ho
  exact ((mem_occurrences o chunk).1 ho).le_length

theorem length_without (s : Bytes) :
    (without s (occurrences s)).length + 3 * (occurrences s).length = s.length := by
  induction s using Stream.induction with
  | nil => rfl
  | triple p rest ih =>
    rw [occurrences_triple, without_triple]
    simp only [List.length_cons, List.length_map, List.length_append, Proposal.length_wire]
    omega
  | other b rest h ih =>
    rw [occurrences_other b rest h, without_other]
    simp only [List.length_cons, List.length_map]
    omega

theorem length_without_answered (chunks : List Bytes) :
    (without chunks.flatten (answered chunks)).length + 3 * (answered chunks).length =
      chunks.flatten.length := by
  induction chunks with
  | nil => rfl
  | cons chunk rest ih =>
    have hfirst := length_without chunk
    rw [List.flatten_cons, without_answered_cons]
    simp only [answered, List.length_append, List.length_map]
    omega

end Telnet
