import Telnet.Proofs.Console.Use

/-!
# Reading lines

Whatever else is done at a console, each line that is read is the next line of its input. It is
handed on as it is, or it ends the session: then a flag is raised, and a flag that is up stays up
(`reads_lines_in_order`).
-/

namespace Telnet

namespace Bytes

/-- An input cut after each line feed: only the last part may lack one. -/
structure IsCut (input : Bytes) (parts : List Bytes) : Prop where
  flatten : parts.flatten = input
  ne_nil : ∀ part ∈ parts, part ≠ []
  inner : ∀ part ∈ parts, lineFeed ∉ part.dropLast
  ends : ∀ part ∈ parts.dropLast, part.getLast? = some lineFeed

theorem notMem_dropLast_nextLine (bs : Bytes) : lineFeed ∉ (nextLine bs).1.dropLast := by
  induction bs with
  | nil => simp [nextLine]
  | cons b rest ih =>
    by_cases hb : b = lineFeed
    · simp [nextLine, hb]
    · simp only [nextLine, if_neg hb]
      cases hline : (nextLine rest).1 with
      | nil => simp
      | cons c line =>
        rw [hline] at ih
        rw [List.dropLast_cons_cons, List.mem_cons, not_or]
        exact ⟨fun h => hb h.symm, ih⟩

/-- A line behind which there is something ends with a line feed. -/
theorem getLast?_nextLine {bs : Bytes} (h : (nextLine bs).2 ≠ []) :
    (nextLine bs).1.getLast? = some lineFeed := by
  induction bs with
  | nil => exact absurd rfl h
  | cons b rest ih =>
    by_cases hb : b = lineFeed
    · simp [nextLine, hb]
    · simp only [nextLine, if_neg hb] at h ⊢
      rw [List.getLast?_cons, ih h]
      rfl

theorem lines_eq (input : Bytes) :
    lines (nextLine input).2 = (lines input).tail ∧
      (nextLine input).1 = (lines input).headD [] := by
  cases input with
  | nil => simp [lines, nextLine]
  | cons b bs =>
    rw [lines]
    exact ⟨rfl, rfl⟩

theorem isCut_lines (input : Bytes) : IsCut input (lines input) := by
  induction input using lines.induct with
  | case1 => exact ⟨by simp [lines], by simp [lines], by simp [lines], by simp [lines]⟩
  | case2 b bs ih =>
    have hlines : lines (b :: bs) = (nextLine (b :: bs)).1 :: lines (nextLine (b :: bs)).2 := by
      rw [lines]
    rw [hlines]
    refine ⟨?_, ?_, ?_, ?_⟩
    · rw [List.flatten_cons, ih.flatten, nextLine_append]
    · intro part hpart
      rcases List.mem_cons.1 hpart with rfl | hpart
      · exact nextLine_cons_ne_nil b bs
      · exact ih.ne_nil part hpart
    · intro part hpart
      rcases List.mem_cons.1 hpart with rfl | hpart
      · exact notMem_dropLast_nextLine _
      · exact ih.inner part hpart
    · intro part hpart
      cases hrest : lines (nextLine (b :: bs)).2 with
      | nil => simp [hrest] at hpart
      | cons next others =>
        rw [hrest, List.dropLast_cons_cons] at hpart
        rcases List.mem_cons.1 hpart with rfl | hpart
        · refine getLast?_nextLine fun hnil => ?_
          rw [hnil, lines] at hrest
          cases hrest
        · rw [hrest] at ih
          exact ih.ends part hpart

end Bytes

namespace Console

/-! ### One line -/

/-- A line that ends the session: the end of the input, or one with a control that means the end. -/
def endsSession (line : Bytes) : Bool :=
  line.isEmpty || line.contains endOfTextByte || line.contains endOfTransmissionByte

/-- What becomes of a line that was read. -/
def judge (line : Bytes) : Act Effect Console Bytes := do
  if line.isEmpty then
    modify fun c => { c with endOfTransmission := true }
    return []
  else if line.contains endOfTextByte then
    noteControl .endOfText endOfTextByte
    modify fun c => { c with endOfText := true }
    return []
  else if line.contains endOfTransmissionByte then
    noteControl .endOfTransmission endOfTransmissionByte
    modify fun c => { c with endOfTransmission := true }
    return []
  else return line

theorem run_judge (line : Bytes) (c : Console) :
    ((judge line).run c).outcome = .ok (if endsSession line then [] else line) ∧
      ((judge line).run c).state =
        { c with
          endOfText := c.endOfText || line.contains endOfTextByte
          endOfTransmission := c.endOfTransmission ||
            (endsSession line && !line.contains endOfTextByte) } ∧
      ∀ e ∈ ((judge line).run c).events, ∃ record, e = .logged record := by
  -- The three tests are made in turn, and each that succeeds raises a flag.
  cases line with
  | nil => simp [judge, endsSession, Except.map]
  | cons b bs =>
    by_cases htext : endOfTextByte ∈ b :: bs
    · simp [judge, noteControl, note, Act.run_bind_eq, endsSession, htext, Except.map, Effect.debug]
    · by_cases htransmission : endOfTransmissionByte ∈ b :: bs <;>
        simp [judge, noteControl, note, Act.run_bind_eq, endsSession, htext, htransmission,
          Except.map, Effect.debug]

theorem exists_run_readLine (c : Console) :
    let line := (Bytes.nextLine c.input).1
    ∃ log, (∀ e ∈ log, ∃ record, e = .logged record) ∧ readLine.run c =
      ⟨.ok (if endsSession line then [] else line),
        { c with
          input := (Bytes.nextLine c.input).2
          endOfText := c.endOfText || line.contains endOfTextByte
          endOfTransmission := c.endOfTransmission ||
            (endsSession line && !line.contains endOfTextByte) }, log⟩ := by
  intro line
  let rest : Console := { c with input := (Bytes.nextLine c.input).2 }
  have hread : readLine.run c = (judge line).run rest := rfl
  obtain ⟨houtcome, hstate, hlog⟩ := run_judge line rest
  rw [hread]
  rcases hrun : (judge line).run rest with ⟨outcome, state, log⟩
  rw [hrun] at houtcome hstate hlog
  cases houtcome
  cases hstate
  exact ⟨log, hlog, rfl⟩

/-- A line is handed on as it is and leaves the flags alone, or it ends the session. -/
theorem readLine_spec (c : Console) :
    let line := (Bytes.nextLine c.input).1
    (readLine.run c).outcome = .ok (if endsSession line then [] else line) ∧
      (readLine.run c).state.isCancelled = (c.isCancelled || endsSession line) := by
  intro line
  obtain ⟨log, -, hread⟩ := exists_run_readLine c
  rw [hread]
  refine ⟨rfl, ?_⟩
  show (c.endOfText || line.contains endOfTextByte || (c.endOfTransmission ||
    (endsSession line && !line.contains endOfTextByte))) = (c.isCancelled || endsSession line)
  rw [isCancelled]
  cases htext : line.contains endOfTextByte with
  | false => simp [Bool.or_assoc]
  | true =>
    have hends : endsSession line = true := by
      rw [endsSession, htext, Bool.or_true, Bool.true_or]
    simp [hends]

/-! ### Flags -/

/-- A flag by which the user ends the session. -/
inductive Flag where
  | endOfText
  | endOfTransmission
  deriving DecidableEq, Repr

def Flag.isUp : Flag → Console → Bool
  | .endOfText, c => c.endOfText
  | .endOfTransmission, c => c.endOfTransmission

def lowered (c : Console) : Console := { c with endOfText := false, endOfTransmission := false }

/-- The action raises the flag: it is up afterwards although both flags were down before. -/
def RaisesFlag {α : Type} (x : Act Effect Console α) (c : Console) (flag : Flag) : Prop :=
  flag.isUp (x.run c.lowered).state = true

variable {c : Console} {line : Bytes}

theorem raisesFlag_readLine (hline : (Bytes.nextLine c.input).1 = line) :
    (RaisesFlag readLine c .endOfText ↔ endOfTextByte ∈ line) ∧
      (RaisesFlag readLine c .endOfTransmission ↔
        endOfTextByte ∉ line ∧ (line = [] ∨ endOfTransmissionByte ∈ line)) := by
  obtain ⟨log, -, hread⟩ := exists_run_readLine c.lowered
  have hinput : (Bytes.nextLine c.lowered.input).1 = line := hline
  rw [RaisesFlag, RaisesFlag, hread, hinput]
  simp only [Flag.isUp, lowered, Bool.false_or]
  constructor
  · simp
  · by_cases htext : endOfTextByte ∈ line <;> simp [endsSession, htext]

theorem isUp_readLine (c : Console) (flag : Flag) :
    flag.isUp (readLine.run c).state = true ↔ flag.isUp c = true ∨ RaisesFlag readLine c flag := by
  obtain ⟨log, -, hread⟩ := exists_run_readLine c
  obtain ⟨log', -, hread'⟩ := exists_run_readLine c.lowered
  rw [RaisesFlag, hread, hread']
  cases flag <;> simp [Flag.isUp, lowered]

/-! ### Many uses -/

def after (c : Console) (uses : List Use) : Console :=
  uses.foldl (fun c u => ((use u).run c).state) c

/-- A use takes the next line from the input if it reads one, and nothing else. -/
theorem lines_use (u : Use) (c : Console) :
    Bytes.lines ((use u).run c).state.input =
      (Bytes.lines c.input).drop (if u = .readLine then 1 else 0) := by
  cases u with
  | setEcho enabled =>
    obtain ⟨mode, hstate⟩ := state_setEcho enabled c
    show Bytes.lines ((setEcho enabled).run c).state.input = _
    rw [hstate]
    rfl
  | readLine =>
    obtain ⟨log, -, hread⟩ := exists_run_readLine c
    rw [use, Act.discard_eq, Act.run_map, hread, if_pos rfl, List.drop_one]
    exact (Bytes.lines_eq c.input).1
  | display bytes =>
    show Bytes.lines ((display bytes).run c).state.input = _
    rw [state_display]
    rfl
  | interrupt => rfl

theorem lines_after (c : Console) (uses : List Use) :
    Bytes.lines (c.after uses).input = (Bytes.lines c.input).drop (uses.count .readLine) := by
  induction uses generalizing c with
  | nil => rfl
  | cons u uses ih =>
    rw [after, List.foldl_cons]
    refine (ih _).trans ?_
    rw [lines_use, List.drop_drop, List.count_cons]
    by_cases hu : u = .readLine
    · simp [hu, Nat.add_comm]
    · simp [hu]

theorem isUp_use (u : Use) {flag : Flag} (h : flag.isUp c = true) :
    flag.isUp ((use u).run c).state = true := by
  cases u with
  | setEcho enabled =>
    obtain ⟨mode, hstate⟩ := state_setEcho enabled c
    show flag.isUp ((setEcho enabled).run c).state = true
    rw [hstate]
    cases flag <;> exact h
  | readLine =>
    rw [use, Act.discard_eq, Act.run_map]
    exact (isUp_readLine c flag).2 (.inl h)
  | display bytes =>
    show flag.isUp ((display bytes).run c).state = true
    rw [state_display]
    exact h
  | interrupt =>
    cases flag with
    | endOfText => rfl
    | endOfTransmission => exact h

/-- Whatever was done at a console before, to read a line takes the next line of the input, which is
empty once the input is used up. A line without a control that means the end is returned as it is;
for any other one the empty line is returned, and exactly then a flag is raised: the one for the end
of the text if the line has that control, and the one for the end of the transmission otherwise. The
other flag is left alone, and no use lowers a flag. -/
theorem reads_lines_in_order (c : Console) (uses : List Use) :
    let place := uses.count .readLine
    let line := ((Bytes.lines c.input)[place]?).getD []
    let before := c.after uses
    let r := readLine.run before
    Bytes.IsCut c.input (Bytes.lines c.input) ∧
    ((Bytes.lines c.input).take place).flatten ++ before.input = c.input ∧
    before.input = line ++ r.state.input ∧
    r.outcome = .ok (if line ≠ [] ∧ endOfTextByte ∉ line ∧ endOfTransmissionByte ∉ line then line
      else []) ∧
    (r.outcome = .ok [] ↔ ∃ flag, RaisesFlag readLine before flag) ∧
    (RaisesFlag readLine before .endOfText ↔ endOfTextByte ∈ line) ∧
    (RaisesFlag readLine before .endOfTransmission ↔
      endOfTextByte ∉ line ∧ (line = [] ∨ endOfTransmissionByte ∈ line)) ∧
    (∀ flag : Flag, flag.isUp r.state = true ↔
      flag.isUp before = true ∨ RaisesFlag readLine before flag) ∧
    ∀ (u : Use) (flag : Flag), flag.isUp before = true →
      flag.isUp ((use u).run before).state = true := by
  intro place line before r
  have hrest : Bytes.lines before.input = (Bytes.lines c.input).drop place := lines_after c uses
  have hline : (Bytes.nextLine before.input).1 = line := by
    rw [(Bytes.lines_eq before.input).2, hrest, List.headD_eq_head?_getD, List.head?_drop]
  obtain ⟨log, -, hread⟩ := exists_run_readLine before
  obtain ⟨htext, htransmission⟩ := raisesFlag_readLine hline
  have houtcome : r.outcome = .ok (if endsSession line then [] else line) := by
    rw [← hline]
    exact congrArg Ran.outcome hread
  have hends : endsSession line = true ↔
      line = [] ∨ endOfTextByte ∈ line ∨ endOfTransmissionByte ∈ line := by
    simp [endsSession, or_assoc]
  have hreturned : r.outcome = .ok [] ↔ endsSession line = true := by
    rw [houtcome]
    cases hend : endsSession line with
    | true => simp
    | false =>
      have hne : line ≠ [] := fun hnil => by simp [endsSession, hnil] at hend
      simp [hne]
  refine ⟨Bytes.isCut_lines c.input, ?_, ?_, ?_, ?_, htext, htransmission, isUp_readLine before,
    fun u flag h => isUp_use u h⟩
  · have hinput := (Bytes.isCut_lines before.input).flatten
    rw [hrest] at hinput
    rw [← hinput, ← List.flatten_append, List.take_append_drop]
    exact (Bytes.isCut_lines c.input).flatten
  · have hnext := Bytes.nextLine_append before.input
    rw [hline] at hnext
    have hstate : r.state.input = (Bytes.nextLine before.input).2 :=
      congrArg (fun ran => ran.state.input) hread
    rw [hstate, hnext]
  · rw [houtcome]
    by_cases hend : endsSession line = true
    · rw [if_pos hend, if_neg fun h => (hends.1 hend).elim h.1 fun h' => h'.elim h.2.1 h.2.2]
    · have hgoes := fun h => hend (hends.2 h)
      rw [if_neg hend, if_pos ⟨fun h => hgoes (.inl h), fun h => hgoes (.inr (.inl h)),
        fun h => hgoes (.inr (.inr h))⟩]
  · rw [hreturned, hends]
    constructor
    · intro h
      by_cases hmem : endOfTextByte ∈ line
      · exact ⟨.endOfText, htext.2 hmem⟩
      · refine ⟨.endOfTransmission, htransmission.2 ⟨hmem, ?_⟩⟩
        exact h.imp_right fun h' => h'.resolve_left hmem
    · rintro ⟨flag, hraises⟩
      cases flag with
      | endOfText => exact .inr (.inl (htext.1 hraises))
      | endOfTransmission => exact (htransmission.1 hraises).2.imp_right .inr

end Console

end Telnet
