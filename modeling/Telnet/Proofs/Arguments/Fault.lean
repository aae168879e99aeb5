import Telnet.Arguments.Basic
import Telnet.Proofs.Text.Line

/-!
# What a fault of the command line repeats

A fault names values between marks, but an option that may mean several ones and arguments that are
not used it repeats as they are. These are arguments of the command line
(`takenFrom_of_ofCommandLine`), and the message is on one line exactly if they are
(`unbroken_message_iff`).
-/

namespace Telnet

namespace CommandFault

/-- The arguments that the message repeats as they are. -/
def repeated : CommandFault → List String
  | .ambiguous given _ => [given]
  | .unrecognized words => words
  | _ => []

/-- The message repeats only such arguments, and beside them it names only options. -/
structure TakenFrom (arguments : List String) (fault : CommandFault) : Prop where
  repeated : ∀ word ∈ fault.repeated, word ∈ arguments
  named : ∀ given candidates, fault = .ambiguous given candidates →
    ∀ name ∈ candidates, name ∈ CommandOption.spellings.map Prod.fst

theorem unbroken_title (o : CommandOption) : Text.Unbroken o.title := by
  cases o <;> decide +kernel

theorem unbroken_message_iff {arguments : List String} {fault : CommandFault}
    (h : fault.TakenFrom arguments) :
    Text.Unbroken fault.message ↔ ∀ word ∈ fault.repeated, Text.Unbroken word := by
  have hfixed : ∀ text ∈ ["ambiguous option: ", " could match ", ", ", "argument ",
      ": expected one argument", ": ignored explicit argument ", ": terminal type must be ASCII: ",
      "the following arguments are required: host", "unrecognized arguments: ", " "],
      Text.Unbroken text := by
    decide +kernel
  simp only [List.forall_mem_cons] at hfixed
  obtain ⟨hambiguous, hmatch, hcomma, hargument, hexpected, hignored, hterminal, hmissing,
    hunrecognized, hspace, -⟩ := hfixed
  cases fault with
  | ambiguous given candidates =>
    have hspellings : ∀ name ∈ CommandOption.spellings.map Prod.fst, Text.Unbroken name := by
      decide +kernel
    have hcandidates : Text.Unbroken (", ".intercalate candidates) :=
      (Text.unbroken_intercalate hcomma).2 fun name hname =>
        hspellings name (h.named given candidates rfl name hname)
    show Text.Unbroken ("ambiguous option: " ++ given ++ " could match " ++
      ", ".intercalate candidates) ↔ _
    simp only [Text.unbroken_append, hambiguous, hmatch, hcandidates, repeated,
      List.forall_mem_singleton, true_and, and_true]
  | noValue o =>
    show Text.Unbroken ("argument " ++ o.title ++ ": expected one argument") ↔ _
    simp only [Text.unbroken_append, hargument, unbroken_title, hexpected, repeated,
      List.not_mem_nil, false_imp_iff, implies_true, and_self]
  | ignoredValue o value =>
    show Text.Unbroken ("argument " ++ o.title ++ ": ignored explicit argument " ++
      Text.quote value) ↔ _
    simp only [Text.unbroken_append, hargument, unbroken_title, hignored, Text.unbroken_quote,
      repeated, List.not_mem_nil, false_imp_iff, implies_true, and_self]
  | terminalType value =>
    show Text.Unbroken ("argument " ++ CommandOption.term.title ++
      ": terminal type must be ASCII: " ++ Text.quote value) ↔ _
    simp only [Text.unbroken_append, hargument, unbroken_title, hterminal, Text.unbroken_quote,
      repeated, List.not_mem_nil, false_imp_iff, implies_true, and_self]
  | missingHost =>
    show Text.Unbroken "the following arguments are required: host" ↔ _
    simp only [hmissing, repeated, List.not_mem_nil, false_imp_iff, implies_true]
  | unrecognized words =>
    show Text.Unbroken ("unrecognized arguments: " ++ " ".intercalate words) ↔ _
    rw [Text.unbroken_append, Text.unbroken_intercalate hspace]
    exact and_iff_right hunrecognized

variable {arguments : List String}

theorem takenFrom_of_nil {fault : CommandFault} (hrepeated : fault.repeated = []) :
    fault.TakenFrom arguments := by
  refine ⟨fun word hword => ?_, ?_⟩
  · rw [hrepeated] at hword
    cases hword
  · rintro given candidates rfl
    cases hrepeated

end CommandFault

/-! ### What an argument is taken for -/

namespace Word

variable {arguments : List String}

/-- What the word repeats as it is, is an argument. -/
def From (arguments : List String) : Word → Prop
  | .plain s | .unknown s => s ∈ arguments
  | .separator => separatorText ∈ arguments
  | .option .. => True

theorem From.mono {more : List String} {word : Word} (h : word.From arguments)
    (hmore : ∀ s ∈ arguments, s ∈ more) : word.From more := by
  cases word with
  | option => trivial
  | _ => exact hmore _ h

theorem of_mem_candidates {text : List Char} {entry : String × Word} (h : entry ∈ candidates text) :
    entry.1 ∈ CommandOption.spellings.map Prod.fst ∧
      ∃ o isShort value, entry.2 = .option o isShort value := by
  unfold candidates at h
  split at h
  · obtain ⟨found, hfound, rfl⟩ := List.mem_map.1 h
    exact ⟨List.mem_map_of_mem (List.mem_filter.1 hfound).1, _, _, _, rfl⟩
  · obtain ⟨found, hfound, rfl⟩ := List.mem_map.1 h
    exact ⟨List.mem_map_of_mem (List.mem_filter.1 hfound).1, _, _, _, rfl⟩

/-- The outcome of a reading: a word, or a fault, that repeats arguments only. -/
def Reads (arguments : List String) : Except CommandFault Word → Prop
  | .ok word => word.From arguments
  | .error fault => fault.TakenFrom arguments

theorem reads_ofText (s : String) : Reads [s] (ofText s) := by
  have hself : s ∈ [s] := List.mem_singleton_self s
  unfold ofText
  cases s.toList with
  | nil => exact hself
  | cons first rest =>
    simp only
    split
    · exact hself
    split
    · trivial
    split
    · exact hself
    split
    · rename_i word hspelled
      unfold spelledOut? at hspelled
      split at hspelled
      · obtain ⟨o, -, rfl⟩ := Option.map_eq_some_iff.1 hspelled
        trivial
      · cases hspelled
    cases hcandidates : candidates (first :: rest) with
    | nil =>
      simp only
      split <;> exact hself
    | cons entry others =>
      have hmem : ∀ found ∈ entry :: others, found ∈ candidates (first :: rest) := by
        intro found hfound
        rwa [hcandidates]
      cases others with
      | nil =>
        obtain ⟨-, o, isShort, value, hword⟩ := of_mem_candidates (hmem entry List.mem_cons_self)
        show entry.2.From [s]
        rw [hword]
        trivial
      | cons next others =>
        refine ⟨fun word hword => hword, ?_⟩
        intro given names heq name hname
        cases heq
        obtain ⟨found, hfound, rfl⟩ := List.mem_map.1 hname
        exact (of_mem_candidates (hmem found hfound)).1

theorem from_ofArguments (arguments : List String) :
    match ofArguments arguments with
    | .ok words => ∀ word ∈ words, word.From arguments
    | .error fault => fault.TakenFrom arguments := by
  induction arguments with
  | nil => exact fun word hword => by cases hword
  | cons s rest ih =>
    unfold ofArguments
    by_cases hseparator : s = separatorText
    · rw [if_pos hseparator]
      intro word hword
      rcases List.mem_cons.1 hword with rfl | hword
      · exact hseparator ▸ List.mem_cons_self
      · obtain ⟨t, ht, rfl⟩ := List.mem_map.1 hword
        exact List.mem_cons_of_mem s ht
    · rw [if_neg hseparator]
      have hfirst := reads_ofText s
      have hsingle : ∀ t ∈ [s], t ∈ s :: rest := by simp
      have hothers : ∀ t ∈ rest, t ∈ s :: rest := fun t ht => List.mem_cons_of_mem s ht
      cases hword : ofText s with
      | error fault =>
        rw [hword] at hfirst
        exact ⟨fun word h => hsingle word (hfirst.repeated word h), hfirst.named⟩
      | ok word =>
        rw [hword] at hfirst
        cases hwords : ofArguments rest with
        | error fault =>
          rw [hwords] at ih
          exact ⟨fun word h => hothers word (ih.repeated word h), ih.named⟩
        | ok words =>
          rw [hwords] at ih
          intro w hw
          rcases List.mem_cons.1 hw with rfl | hw
          · exact Word.From.mono hfirst hsingle
          · exact Word.From.mono (ih w hw) hothers

end Word

/-! ### What is not used -/

namespace Arguments

variable {arguments : List String} {d : Draft}

/-- After an argument with options in it the same arguments are unused, and a fault of it repeats
nothing. -/
def Spares (d : Draft) : Except CommandFault Progress → Prop
  | .ok .help => True
  | .ok (.next d') | .ok (.afterNext d') => d'.unused = d.unused
  | .error fault => fault.repeated = []

theorem repeated_letters {o : CommandOption} {isShort : Bool} {value : List Char}
    {fault : CommandFault} (h : letters o isShort value = .error fault) : fault.repeated = [] := by
  induction value generalizing o isShort fault with
  | nil =>
    unfold letters at h
    split at h <;> cases h
    rfl
  | cons c rest ih =>
    unfold letters at h
    simp only at h
    split at h
    · cases h
    split at h
    · cases h
      rfl
    split at h
    · cases h
      rfl
    split at h
    · cases h
    · rename_i next _ _ _
      cases hrest : letters next true rest with
      | error e =>
        rw [hrest] at h
        cases h
        exact ih hrest
      | ok chain =>
        rw [hrest] at h
        cases h

theorem unused_setOption (d : Draft) (o : CommandOption) (text : String) :
    match d.setOption o text with
    | .ok d' => d'.unused = d.unused
    | .error fault => fault.repeated = [] := by
  unfold Draft.setOption
  cases o <;> try rfl
  simp only
  by_cases hascii : (text.toList.all fun c => decide (c.toNat < 128)) = true
  · rw [if_pos hascii]
  · rw [if_neg hascii]
    rfl

theorem unused_mark {options : List CommandOption} {d' : Draft} (h : d.mark options = some d') :
    d'.unused = d.unused := by
  unfold Draft.mark at h
  split at h <;> cases h
  rfl

theorem spares_accept (d : Draft) (c : Chain) (next : Option String) :
    Spares d (d.accept c next) := by
  have hset : ∀ (d' : Draft) (text : String) (f : Draft → Progress), d'.unused = d.unused →
      (∀ d'', d''.unused = d.unused → Spares d (.ok (f d''))) →
      Spares d ((d'.setOption c.last text).map f) := by
    intro d' text f hd' hf
    have hunused := unused_setOption d' c.last text
    cases hs : d'.setOption c.last text with
    | error fault =>
      rw [hs] at hunused
      exact hunused
    | ok d'' =>
      rw [hs] at hunused
      exact hf d'' (hunused.trans hd')
  unfold Draft.accept
  split
  · cases hmark : d.mark (c.before ++ [c.last]) with
    | none => trivial
    | some d' => exact unused_mark hmark
  · split
    · trivial
    · rename_i d' hmark
      exact hset d' _ _ (unused_mark hmark) fun d'' h => h
  · split
    · trivial
    · rename_i d' hmark
      exact hset d' _ _ (unused_mark hmark) fun d'' h => h
  · rfl

theorem spares_options {o : CommandOption} {isShort : Bool} {value : Option (List Char)}
    {next : Option String} {progress : Except CommandFault Progress}
    (h : ((chain o isShort value).bind fun c => d.accept c next) = progress) :
    Spares d progress := by
  rw [← h]
  cases hchain : chain o isShort value with
  | ok c => exact spares_accept d c next
  | error fault =>
    cases value with
    | none => cases hchain
    | some text => exact repeated_letters hchain

theorem unused_append (hunused : ∀ word ∈ d.unused, word ∈ arguments) {s : String}
    (hs : s ∈ arguments) : ∀ word ∈ d.unused ++ [s], word ∈ arguments := by
  intro word hword
  rcases List.mem_append.1 hword with hword | hword
  · exact hunused word hword
  · exact List.mem_singleton.1 hword ▸ hs

theorem unused_take (hunused : ∀ word ∈ d.unused, word ∈ arguments) {s : String}
    (hs : s ∈ arguments) : ∀ word ∈ (d.take s).unused, word ∈ arguments := by
  unfold Draft.take
  split
  · exact hunused
  · exact unused_append hunused hs

theorem takenFrom_finish {fault : CommandFault} (hunused : ∀ word ∈ d.unused, word ∈ arguments)
    (h : d.finish = .error fault) : fault.TakenFrom arguments := by
  unfold Draft.finish at h
  split at h
  · cases h
    exact CommandFault.takenFrom_of_nil rfl
  · split at h
    · cases h
    · cases h
      exact ⟨hunused, nofun⟩

/-- A fault that is found in the rest of a command line repeats what was not used before, or words
of that rest. -/
theorem takenFrom_read {words : List Word} {fault : CommandFault}
    (hwords : ∀ word ∈ words, word.From arguments) (hunused : ∀ word ∈ d.unused, word ∈ arguments)
    (h : d.read words = .error fault) : fault.TakenFrom arguments := by
  -- That only arguments are unused is kept from word to word.
  fun_induction Draft.read d words with
  | case1 => exact takenFrom_finish hunused h
  | case2 d s rest ih =>
    obtain ⟨hs, hrest⟩ := List.forall_mem_cons.1 hwords
    exact ih hrest (unused_append hunused hs) h
  | case3 d s rest ih =>
    obtain ⟨hs, hseparator, hrest⟩ := by simpa only [List.forall_mem_cons] using hwords
    refine ih hrest ?_ h
    split
    · exact unused_take hunused hs
    · exact unused_take (unused_take hunused hs) hseparator
  | case4 d s rest hnext ih =>
    obtain ⟨hs, hrest⟩ := List.forall_mem_cons.1 hwords
    exact ih hrest (unused_take hunused hs) h
  | case5 d s rest ih =>
    obtain ⟨hseparator, hs, hrest⟩ := by simpa only [List.forall_mem_cons] using hwords
    refine ih hrest ?_ h
    split
    · exact unused_take hunused hs
    · exact unused_take (unused_take hunused hseparator) hs
  | case6 d rest hnext ih =>
    obtain ⟨hseparator, hrest⟩ := List.forall_mem_cons.1 hwords
    exact ih hrest (unused_append hunused hseparator) h
  | case7 d o isShort value s rest e hstep =>
    obtain rfl := Except.error.inj h
    exact CommandFault.takenFrom_of_nil (spares_options hstep)
  | case8 => cases h
  | case9 d o isShort value s rest d' hstep ih =>
    have hspares := spares_options hstep
    exact ih (List.forall_mem_cons.1 hwords).2 (hspares ▸ hunused) h
  | case10 d o isShort value s rest d' hstep ih =>
    have hspares := spares_options hstep
    obtain ⟨-, -, hrest⟩ := by simpa only [List.forall_mem_cons] using hwords
    exact ih hrest (hspares ▸ hunused) h
  | case11 d o isShort value rest hnext e hstep =>
    obtain rfl := Except.error.inj h
    exact CommandFault.takenFrom_of_nil (spares_options hstep)
  | case12 => cases h
  | case13 d o isShort value rest hnext d' hstep ih
  | case14 d o isShort value rest hnext d' hstep ih =>
    have hspares := spares_options hstep
    exact ih (List.forall_mem_cons.1 hwords).2 (hspares ▸ hunused) h

/-- What is repeated about a command line that is refused stands in it. -/
theorem takenFrom_of_ofCommandLine {fault : CommandFault}
    (h : ofCommandLine arguments = .error fault) : fault.TakenFrom arguments := by
  have hwords := Word.from_ofArguments arguments
  unfold ofCommandLine at h
  cases hread : Word.ofArguments arguments with
  | error e =>
    rw [hread] at h hwords
    obtain rfl := Except.error.inj h
    exact hwords
  | ok words =>
    rw [hread] at h hwords
    exact takenFrom_read hwords (fun word hword => by cases hword) h

end Arguments

end Telnet
