import Telnet.Proofs.Negotiation.Stream

/-!
# Reading the replies back

The remote host reads what the engine sends without knowing the type of the terminal. Two of the
three replies have a length of their own. The type of the terminal ends where the next end of a
subnegotiation stands, and since it is in ASCII no escape byte lies before that
(`next?_wireReply`). So a sequence of replies is read back in one way only, whatever the terminal
type is (`readAll_feedAll`).
-/

namespace Telnet

/-- What the remote host understands of a reply: whether it is to echo, or the terminal type. -/
inductive Reply where
  | echo (enabled : Bool)
  | terminalType (text : String)
  deriving DecidableEq, Repr

namespace Reply

/-- The reply to a proposal of a host that is told `term`. -/
def of (term : TerminalType) : Proposal → Reply
  | .terminalType => .terminalType term.text
  | .remoteEcho => .echo true
  | .noRemoteEcho => .echo false

def spelled (bytes : Bytes) : String := String.ofList (bytes.map fun b => Char.ofNat b.toNat)

/-- The bytes before the first end of a subnegotiation, and those behind it. -/
def upToEnd : Bytes → Option (Bytes × Bytes)
  | b :: c :: rest =>
    if b = 0xff ∧ c = 0xf0 then some ([], rest)
    else (upToEnd (c :: rest)).map fun (front, after) => (b :: front, after)
  | _ => none

/-- The reply at the front of some bytes, and the bytes behind it. -/
def next? (bytes : Bytes) : Option (Reply × Bytes) :=
  if bytes.take 3 = [0xff, 0xfd, 0x01] then some (.echo true, bytes.drop 3)
  else if bytes.take 3 = [0xff, 0xfe, 0x01] then some (.echo false, bytes.drop 3)
  else if bytes.take 4 = [0xff, 0xfa, 0x18, 0x00] then
    (upToEnd (bytes.drop 4)).map fun (text, after) => (.terminalType (spelled text), after)
  else none

theorem length_upToEnd {bytes front after : Bytes} (h : upToEnd bytes = some (front, after)) :
    after.length < bytes.length := by
  induction bytes generalizing front with
  | nil => cases h
  | cons b rest ih =>
    cases rest with
    | nil => cases h
    | cons c rest =>
      rw [upToEnd] at h
      by_cases hend : b = 0xff ∧ c = 0xf0
      · rw [if_pos hend] at h
        cases h
        simp only [List.length_cons]
        omega
      · rw [if_neg hend] at h
        obtain ⟨⟨front', after'⟩, hrest, heq⟩ := Option.map_eq_some_iff.1 h
        cases heq
        have hlt := ih hrest
        simp only [List.length_cons] at hlt ⊢
        omega

theorem length_next? {bytes after : Bytes} {reply : Reply} (h : next? bytes = some (reply, after)) :
    after.length < bytes.length := by
  have hdrop : ∀ {n : Nat} {b : UInt8} {front : Bytes}, bytes.take n = b :: front →
      (bytes.drop n).length < bytes.length := by
    intro n b front htake
    have hlen := congrArg List.length htake
    rw [List.length_take, List.length_cons] at hlen
    rw [List.length_drop]
    omega
  unfold next? at h
  split at h
  · rename_i htake
    cases h
    exact hdrop htake
  split at h
  · rename_i htake
    cases h
    exact hdrop htake
  split at h
  · rename_i htake
    obtain ⟨⟨text, after'⟩, hend, heq⟩ := Option.map_eq_some_iff.1 h
    cases heq
    have hlt := length_upToEnd hend
    have hless := hdrop htake
    omega
  · cases h

/-- All replies that some bytes are made of; there are none if the bytes do not end with one. -/
def readAll : Bytes → Option (List Reply)
  | [] => some []
  | b :: rest =>
    match _h : next? (b :: rest) with
    | some (reply, after) => (readAll after).map (reply :: ·)
    | none => none
termination_by bytes => bytes.length
decreasing_by exact length_next? _h

theorem readAll_of_next? {bytes after : Bytes} {reply : Reply}
    (h : next? bytes = some (reply, after)) :
    readAll bytes = (readAll after).map (reply :: ·) := by
  cases bytes with
  | nil => cases h
  | cons b rest =>
    rw [readAll]
    split
    · rename_i heq
      rw [h] at heq
      cases heq
      rfl
    · rename_i heq
      rw [h] at heq
      cases heq

/-! ### One reply -/

theorem toNat_of_mem {term : TerminalType} {c : Char} (h : c ∈ term.text.toList) :
    (UInt8.ofNat c.toNat).toNat = c.toNat := by
  have hascii := List.all_eq_true.1 term.isAscii c h
  have hlt : c.toNat < 128 := of_decide_eq_true hascii
  rw [UInt8.toNat_ofNat']
  omega

theorem escape_notMem_bytes (term : TerminalType) : (0xff : UInt8) ∉ term.bytes := by
  intro hmem
  obtain ⟨c, hc, heq⟩ := List.mem_map.1 hmem
  have hnat := toNat_of_mem hc
  have hascii := List.all_eq_true.1 term.isAscii c hc
  have hlt : c.toNat < 128 := of_decide_eq_true hascii
  rw [heq] at hnat
  have h255 : (0xff : UInt8).toNat = 255 := rfl
  omega

theorem spelled_bytes (term : TerminalType) : spelled term.bytes = term.text := by
  have hsame : (term.text.toList.map fun c => Char.ofNat (UInt8.ofNat c.toNat).toNat) =
      term.text.toList.map id := by
    refine List.map_congr_left fun c hc => ?_
    rw [toNat_of_mem hc, Char.ofNat_toNat, id]
  rw [spelled, TerminalType.bytes, List.map_map]
  simp only [Function.comp_def, hsame, List.map_id, String.ofList_toList]

theorem upToEnd_append {bytes : Bytes} (h : 0xff ∉ bytes) (rest : Bytes) :
    upToEnd (bytes ++ 0xff :: 0xf0 :: rest) = some (bytes, rest) := by
  induction bytes with
  | nil => rfl
  | cons b bytes ih =>
    -- The end cannot begin within the text, not even with its last byte.
    have hb : b ≠ 0xff := fun heq => h (heq ▸ List.mem_cons_self)
    have hrest := ih fun hmem => h (List.mem_cons_of_mem b hmem)
    obtain ⟨c, after, hafter⟩ : ∃ c after, bytes ++ 0xff :: 0xf0 :: rest = c :: after := by
      cases bytes <;> exact ⟨_, _, rfl⟩
    rw [List.cons_append, hafter, upToEnd, if_neg fun hend => hb hend.1, ← hafter, hrest]
    rfl

/-- A reply is read off the front, whatever is sent after it. -/
theorem next?_wireReply (term : TerminalType) (p : Proposal) (rest : Bytes) :
    next? (p.wireReply term ++ rest) = some (of term p, rest) := by
  cases p with
  | terminalType =>
    have hend := upToEnd_append (escape_notMem_bytes term) rest
    have hbytes : Proposal.terminalType.wireReply term ++ rest =
        0xff :: 0xfa :: 0x18 :: 0x00 :: (term.bytes ++ 0xff :: 0xf0 :: rest) := by
      simp [Proposal.wireReply]
    rw [hbytes]
    simp [next?, hend, spelled_bytes, of]
  | remoteEcho | noRemoteEcho => rfl

/-! ### Many replies -/

theorem readAll_flatMap (term : TerminalType) (ps : List Proposal) :
    readAll (ps.flatMap (Proposal.wireReply term)) = some (ps.map (of term)) := by
  induction ps with
  | nil => rw [List.flatMap_nil, readAll, List.map_nil]
  | cons p ps ih =>
    have hnext := next?_wireReply term p (ps.flatMap (Proposal.wireReply term))
    rw [List.flatMap_cons, readAll_of_next? hnext, ih]
    rfl

theorem of_inj {term term' : TerminalType} {p p' : Proposal} :
    of term p = of term' p' ↔ p = p' ∧ (p = .terminalType → term = term') := by
  obtain ⟨text, hascii⟩ := term
  obtain ⟨text', hascii'⟩ := term'
  cases p <;> cases p' <;> simp [of]

theorem map_of_inj {term term' : TerminalType} {ps ps' : List Proposal} :
    ps.map (of term) = ps'.map (of term') ↔
      ps = ps' ∧ (.terminalType ∈ ps → term = term') := by
  induction ps generalizing ps' with
  | nil => cases ps' <;> simp
  | cons p ps ih =>
    cases ps' with
    | nil => simp
    | cons p' ps' =>
      rw [List.map_cons, List.map_cons, List.cons.injEq, of_inj, ih, List.cons.injEq, List.mem_cons]
      constructor
      · intro h
        obtain ⟨⟨hp, hfirst⟩, hps, hrest⟩ := h
        exact ⟨⟨hp, hps⟩, fun hmem => hmem.elim (fun heq => hfirst heq.symm) hrest⟩
      · intro h
        obtain ⟨⟨hp, hps⟩, hterm⟩ := h
        exact ⟨⟨hp, fun heq => hterm (.inl heq.symm)⟩, hps, fun hmem => hterm (.inr hmem)⟩

end Reply

namespace Engine

def heeded (chunks : List Bytes) : List Proposal := (answered chunks).map Occurrence.proposal

/-- The remote host reads the replies back: which proposals were answered, in order, and the type of
the terminal each time that it was asked for. So two streams are answered alike only if the same
proposals were answered, and by terminals of one type if the type was told. -/
theorem readAll_feedAll (e : Engine) (chunks : List Bytes) :
    Reply.readAll (e.feedAll chunks).response = some ((heeded chunks).map (Reply.of e.term)) ∧
      ∀ (e' : Engine) (chunks' : List Bytes),
        (e.feedAll chunks).response = (e'.feedAll chunks').response ↔
          heeded chunks = heeded chunks' ∧
            (.terminalType ∈ heeded chunks → e.term = e'.term) := by
  have hread : ∀ (e : Engine) (chunks : List Bytes),
      (e.feedAll chunks).response = (heeded chunks).flatMap (Proposal.wireReply e.term) ∧
        Reply.readAll (e.feedAll chunks).response =
          some ((heeded chunks).map (Reply.of e.term)) := by
    intro e chunks
    obtain ⟨-, -, hresponse⟩ := e.feedAll_eq_without chunks
    have hflat : (e.feedAll chunks).response =
        (heeded chunks).flatMap (Proposal.wireReply e.term) := by
      rw [hresponse, replies, heeded, List.flatMap_map]
    exact ⟨hflat, hflat ▸ Reply.readAll_flatMap e.term (heeded chunks)⟩
  refine ⟨(hread e chunks).2, fun e' chunks' => ?_⟩
  obtain ⟨hflat, hsome⟩ := hread e chunks
  obtain ⟨hflat', hsome'⟩ := hread e' chunks'
  constructor
  · intro heq
    rw [heq, hsome'] at hsome
    exact Reply.map_of_inj.1 (Option.some.inj hsome).symm
  · intro h
    obtain ⟨hsame, hterm⟩ := h
    rw [hflat, hflat', ← hsame]
    refine List.flatMap_congr fun p hp => ?_
    cases p with
    | terminalType => rw [hterm hp]
    | remoteEcho | noRemoteEcho => rfl

/-- A terminal type with a control character in it, told twice. -/
example : Reply.readAll (((start ⟨"A\x1bB", by decide⟩).feedAll
    [[0xff, 0xfd, 0x18, 0xff, 0xfb, 0x01], [0xff, 0xfd, 0x18]]).response) =
      some [.terminalType "A\x1bB", .echo true, .terminalType "A\x1bB"] := by
  cbv

end Engine

end Telnet
