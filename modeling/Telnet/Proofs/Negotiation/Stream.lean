import Telnet.Negotiation.Engine
import Telnet.Proofs.Negotiation.Occurrence

/-!
# Reading a stream in chunks

What the engine shows of a stream is the stream without the answered proposals, and what it sends
are their replies, in the order of the stream (`feedAll_eq_without`). How the stream is cut into
chunks matters only where a cut goes through a proposal.
-/

namespace Telnet

namespace Engine

/-! ### One chunk -/

theorem accept_term (e : Engine) (p : Proposal) : (e.accept p).1.term = e.term := by
  cases p <;> rfl

/-- A proposal at the front of a chunk is answered and not shown. -/
theorem feed_triple (e : Engine) (p : Proposal) (rest : Bytes) :
    e.feed (p.wire ++ rest) =
      ⟨((e.accept p).1.feed rest).engine, ((e.accept p).1.feed rest).display,
        p.wireReply e.term ++ ((e.accept p).1.feed rest).response,
        .received p :: (e.accept p).2 ++ ((e.accept p).1.feed rest).notes⟩ := by
  have hcodes : Proposal.ofBytes? p.command.code p.option.code = some p :=
    (Proposal.ofBytes?_eq_some_iff _ _ p).2 p.bytes_eq.symm
  rw [← Proposal.reply_eq, ← Proposal.bytes_eq]
  simp only [Proposal.bytes, List.cons_append, List.nil_append]
  rw [feed, if_pos rfl, hcodes]
  rfl

theorem feed_other (e : Engine) (b : UInt8) (rest : Bytes)
    (h : Proposal.front? (b :: rest) = none) :
    (e.feed (b :: rest)).engine = (e.feed rest).engine ∧
      (e.feed (b :: rest)).display = b :: (e.feed rest).display ∧
      (e.feed (b :: rest)).response = (e.feed rest).response := by
  rcases rest with _ | ⟨command, _ | ⟨option, rest⟩⟩
  · exact ⟨rfl, rfl, rfl⟩
  · exact ⟨rfl, rfl, rfl⟩
  · rw [Proposal.front?] at h
    rw [feed]
    split
    · rename_i hb
      rw [if_pos hb] at h
      simp only [h, and_self]
    · exact ⟨rfl, rfl, rfl⟩

def acceptAll (e : Engine) (found : List Occurrence) : Engine :=
  found.foldl (fun e o => (e.accept o.proposal).1) e

@[simp] theorem acceptAll_nil (e : Engine) : e.acceptAll [] = e := rfl

@[simp] theorem acceptAll_cons (e : Engine) (o : Occurrence) (found : List Occurrence) :
    e.acceptAll (o :: found) = (e.accept o.proposal).1.acceptAll found := rfl

theorem acceptAll_append (e : Engine) (found later : List Occurrence) :
    e.acceptAll (found ++ later) = (e.acceptAll found).acceptAll later := by
  simp only [acceptAll, List.foldl_append]

theorem acceptAll_shift (e : Engine) (count : Nat) (found : List Occurrence) :
    e.acceptAll (found.map (Occurrence.shift count)) = e.acceptAll found := by
  simp only [acceptAll, List.foldl_map, Occurrence.shift_proposal]

theorem acceptAll_term (e : Engine) (found : List Occurrence) :
    (e.acceptAll found).term = e.term := by
  induction found generalizing e with
  | nil => rfl
  | cons o found ih => rw [acceptAll_cons, ih, accept_term]

def replies (term : TerminalType) (found : List Occurrence) : Bytes :=
  found.flatMap fun o => o.proposal.wireReply term

theorem replies_cons (term : TerminalType) (o : Occurrence) (found : List Occurrence) :
    replies term (o :: found) = o.proposal.wireReply term ++ replies term found := by
  simp only [replies, List.flatMap_cons]

theorem replies_append (term : TerminalType) (found later : List Occurrence) :
    replies term (found ++ later) = replies term found ++ replies term later := by
  simp only [replies, List.flatMap_append]

theorem replies_shift (term : TerminalType) (count : Nat) (found : List Occurrence) :
    replies term (found.map (Occurrence.shift count)) = replies term found := by
  simp only [replies, List.flatMap_map, Occurrence.shift_proposal]

/-- A chunk is shown without the proposals that occur in it, which are answered in their order. -/
theorem feed_eq_without (e : Engine) (chunk : Bytes) :
    (e.feed chunk).engine = e.acceptAll (occurrences chunk) ∧
      (e.feed chunk).display = without chunk (occurrences chunk) ∧
      (e.feed chunk).response = replies e.term (occurrences chunk) := by
  induction chunk using Stream.induction generalizing e with
  | nil => exact ⟨rfl, rfl, rfl⟩
  | triple p rest ih =>
    obtain ⟨hengine, hdisplay, hresponse⟩ := ih (e.accept p).1
    rw [feed_triple, occurrences_triple]
    refine ⟨?_, ?_, ?_⟩
    · rw [acceptAll_cons, acceptAll_shift]
      exact hengine
    · rw [without_triple]
      exact hdisplay
    · rw [replies_cons, replies_shift]
      simp only [hresponse, accept_term]
  | other b rest h ih =>
    obtain ⟨hengine, hdisplay, hresponse⟩ := ih e
    obtain ⟨hengine', hdisplay', hresponse'⟩ := feed_other e b rest h
    rw [occurrences_other b rest h]
    refine ⟨?_, ?_, ?_⟩
    · rw [hengine', hengine, acceptAll_shift]
    · rw [hdisplay', hdisplay, without_other]
    · rw [hresponse', hresponse, replies_shift]

/-! ### Many chunks -/

def feedAll : Engine → List Bytes → Fed
  | e, [] => ⟨e, [], [], []⟩
  | e, chunk :: rest =>
    let fed := e.feed chunk
    let after := feedAll fed.engine rest
    ⟨after.engine, fed.display ++ after.display, fed.response ++ after.response,
      fed.notes ++ after.notes⟩

theorem feedAll_eq_without (e : Engine) (chunks : List Bytes) :
    (e.feedAll chunks).engine = e.acceptAll (answered chunks) ∧
      (e.feedAll chunks).display = without chunks.flatten (answered chunks) ∧
      (e.feedAll chunks).response = replies e.term (answered chunks) := by
  induction chunks generalizing e with
  | nil => exact ⟨rfl, rfl, rfl⟩
  | cons chunk rest ih =>
    obtain ⟨hengine, hdisplay, hresponse⟩ := e.feed_eq_without chunk
    obtain ⟨hengine', hdisplay', hresponse'⟩ := ih (e.feed chunk).engine
    simp only [feedAll]
    refine ⟨?_, ?_, ?_⟩
    · rw [hengine', hengine, answered, acceptAll_append, acceptAll_shift]
    · rw [hdisplay', hdisplay, List.flatten_cons, without_answered_cons]
    · rw [hresponse', hresponse, hengine, acceptAll_term, answered, replies_append, replies_shift]

/-! ### The echo -/

def echoes (found : List Occurrence) : List Proposal :=
  (found.map Occurrence.proposal).filter fun p => decide (p ≠ .terminalType)

theorem acceptAll_suppressed (e : Engine) (found : List Occurrence) :
    (e.acceptAll found).suppressed =
      ((echoes found).getLast?.map fun p => decide (p = .remoteEcho)).getD e.suppressed := by
  induction found generalizing e with
  | nil => rfl
  | cons o found ih =>
    rw [acceptAll_cons, ih]
    cases hp : o.proposal with
    | terminalType =>
      have hsame : echoes (o :: found) = echoes found := by simp [echoes, hp]
      rw [hsame]
      rfl
    | remoteEcho | noRemoteEcho =>
      have hcons : echoes (o :: found) = o.proposal :: echoes found := by simp [echoes, hp]
      rw [hcons, List.getLast?_cons, hp]
      cases (echoes found).getLast? <;> rfl

/-! ### The stream as a whole -/

/-- What the engine shows of a stream is the stream without the proposals that lie in one chunk, and
what it sends are their replies in order; the last of them about the echo decides whether the local
echo is off. The chunks matter only where a boundary cuts a proposal. -/
theorem feedAll_shows_unanswered (term : TerminalType) (chunks : List Bytes) :
    (∀ o : Occurrence, o ∈ answered chunks ↔ o.Answered chunks) ∧
      ((answered chunks).Pairwise fun a b => a.place + 3 ≤ b.place) ∧
      ((start term).feedAll chunks).display = without chunks.flatten (answered chunks) ∧
      ((start term).feedAll chunks).response =
        (answered chunks).flatMap (fun o => o.proposal.wireReply term) ∧
      (((start term).feedAll chunks).engine.suppressed = true ↔
        (echoes (answered chunks)).getLast? = some .remoteEcho) ∧
      ((((start term).feedAll chunks).display = ((start term).feedAll [chunks.flatten]).display ∧
          ((start term).feedAll chunks).response =
            ((start term).feedAll [chunks.flatten]).response) ↔
        ∀ o : Occurrence, o.In chunks.flatten → ¬ o.Cut chunks) ∧
      ((∀ o : Occurrence, o.In chunks.flatten → ¬ o.Cut chunks) →
        ((start term).feedAll chunks).engine = ((start term).feedAll [chunks.flatten]).engine) := by
  obtain ⟨hengine, hdisplay, hresponse⟩ := (start term).feedAll_eq_without chunks
  obtain ⟨hengine', hdisplay', hresponse'⟩ := (start term).feedAll_eq_without [chunks.flatten]
  rw [answered_singleton] at hengine' hdisplay' hresponse'
  rw [List.flatten_singleton] at hdisplay'
  refine ⟨fun o => mem_answered o chunks, pairwise_answered chunks, hdisplay, hresponse,
    ?_, ?_, ?_⟩
  · rw [hengine, acceptAll_suppressed]
    cases (echoes (answered chunks)).getLast? with
    | none => simp [start]
    | some p => simp
  · rw [← answered_eq_occurrences_iff, hdisplay, hresponse, hdisplay', hresponse']
    constructor
    · rintro ⟨hshown, -⟩
      -- With as much shown, as many are answered, and those are among all that occur.
      have hlen := length_without_answered chunks
      have hlen' := length_without chunks.flatten
      rw [hshown] at hlen
      exact eq_of_answered_length chunks (by omega)
    · intro h
      rw [h]
      exact ⟨rfl, rfl⟩
  · rw [← answered_eq_occurrences_iff, hengine, hengine']
    intro h
    rw [h]

/-- A proposal that is cut is shown as it is. -/
example : ((start .standard).feedAll [[0xff, 0xfd], [0x18, 0x41]]).display =
    [0xff, 0xfd, 0x18, 0x41] := by decide

end Engine

end Telnet
