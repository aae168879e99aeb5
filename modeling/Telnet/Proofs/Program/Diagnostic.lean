import Telnet.Proofs.Arguments.Fault
import Telnet.Proofs.Program.ExitCode

/-!
# Errors on one line

An error is reported on one line if its message is. The host that looks like an address and is none
is quoted, so the report of it is always on one line; a fault of the command line is reported on one
line exactly if the arguments are that its message repeats (`reported_oneLine_iff`).
-/

namespace Telnet.Program

/-- The report of an error, with no end of a line in it but the last. -/
def OneLine (report : String) : Prop :=
  ∃ message, report = errorLine message ∧ Text.Unbroken message

theorem oneLine_errorLine {message : String} :
    OneLine (errorLine message) ↔ Text.Unbroken message := by
  constructor
  · rintro ⟨message', heq, hunbroken⟩
    have hlists := congrArg String.toList heq
    simp only [errorLine, String.toList_append, List.append_cancel_left_eq,
      List.append_cancel_right_eq] at hlists
    rwa [String.toList_injective hlists]
  · exact fun hunbroken => ⟨message, rfl, hunbroken⟩

variable {arguments : List String} {e : Environment}

/-- An error that ends the program once it asks for a session is reported behind what was logged. -/
theorem errors_of_endedBy {a : Arguments} (hasks : Asks arguments e a) {c : ClientError}
    (hended : EndedBy arguments e c) {message : String} (hmessage : c.message = .ok message) :
    (run arguments e).errors = logged arguments e ++ errorLine message := by
  obtain ⟨-, herrors⟩ := run_of_asks hasks
  rw [herrors, outcome_of_endedBy hasks hended]
  simp only [conclude, report, hmessage]

theorem asks_of_endedBy {c : ClientError} (hended : EndedBy arguments e c)
    (hcommand : ∀ details, c ≠ .usage details) : ∃ a, Asks arguments e a := by
  cases hended with
  | commandLine => exact absurd rfl (hcommand _)
  | resolution hasks => exact ⟨_, hasks⟩
  | opening hbegins => exact ⟨_, hbegins.choose_spec.1⟩
  | connecting hbegins => exact ⟨_, hbegins.choose_spec.1⟩
  | running hbegins => exact ⟨_, hbegins.choose_spec.1⟩

/-- What is written about a command line that is refused is on one line exactly if the arguments are
that its fault repeats. What is written about a host that looks like an address and is none, behind
what was logged, always is, whatever characters the host has. -/
theorem reported_oneLine_iff (arguments : List String) (e : Environment) :
    (∀ fault, Arguments.ofCommandLine arguments = .error fault →
      (run arguments e).errors = errorLine fault.message ∧
      (OneLine (run arguments e).errors ↔ ∀ word ∈ fault.repeated, Text.Unbroken word) ∧
      ∀ word ∈ fault.repeated, word ∈ arguments) ∧
    ∀ host, EndedBy arguments e (.invalidAddress (.text host)) →
      ∃ line, (run arguments e).errors = logged arguments e ++ line ∧
        line = errorLine ("Invalid address format: " ++ Text.quote host) ∧ OneLine line := by
  constructor
  · intro fault hfault
    have htaken := Arguments.takenFrom_of_ofCommandLine hfault
    have herrors : (run arguments e).errors = errorLine fault.message := by
      rw [(returns_of_fault hfault).1]
    refine ⟨herrors, ?_, htaken.repeated⟩
    rw [herrors, oneLine_errorLine]
    exact CommandFault.unbroken_message_iff htaken
  · intro host hended
    obtain ⟨a, hasks⟩ := asks_of_endedBy hended nofun
    have hlead : Text.Unbroken "Invalid address format: " := by decide +kernel
    refine ⟨_, errors_of_endedBy hasks hended rfl, rfl, oneLine_errorLine.2 ?_⟩
    exact Text.unbroken_append.2 ⟨hlead, Text.unbroken_quote host⟩

/-- A terminal type and a host, each with a line feed in it, are reported on one line. -/
theorem reported_oneLine_of_line_feed :
    Arguments.ofCommandLine ["--term", "é\n", "h"] = .error (.terminalType "é\n") ∧
      OneLine (run ["--term", "é\n", "h"] .quiet).errors ∧
      EndedBy ["1.2\n.3"] .quiet (.invalidAddress (.text "1.2\n.3")) ∧
      ∃ line, (run ["1.2\n.3"] .quiet).errors = logged ["1.2\n.3"] .quiet ++ line ∧
        line = errorLine ("Invalid address format: " ++ Text.quote "1.2\n.3") ∧ OneLine line := by
  have hfault : Arguments.ofCommandLine ["--term", "é\n", "h"] = .error (.terminalType "é\n") := by
    decide
  obtain ⟨-, hline, -⟩ := (reported_oneLine_iff ["--term", "é\n", "h"] .quiet).1 _ hfault
  let a : Arguments := { Arguments.Draft.start.settings with target := "1.2\n.3" }
  have hasks : Asks ["1.2\n.3"] .quiet a := ⟨rfl, ⟨_, rfl⟩, rfl⟩
  have hendpoint : Endpoint.ofText "1.2\n.3" = .ok ⟨"1.2\n.3", 23⟩ := rfl
  have hended : EndedBy ["1.2\n.3"] .quiet (.invalidAddress (.text "1.2\n.3")) :=
    .resolution hasks hendpoint rfl
  exact ⟨hfault, hline.2 nofun, hended, (reported_oneLine_iff ["1.2\n.3"] .quiet).2 _ hended⟩

/-- An argument that is not used is repeated as it is: with a line feed in it, it makes a report of
two lines. -/
theorem reported_on_two_lines :
    Arguments.ofCommandLine ["h", "x\ny"] = .error (.unrecognized ["x\ny"]) ∧
      (run ["h", "x\ny"] .quiet).errors = "Error: unrecognized arguments: x\ny\n" ∧
      ¬OneLine (run ["h", "x\ny"] .quiet).errors := by
  have hfault : Arguments.ofCommandLine ["h", "x\ny"] = .error (.unrecognized ["x\ny"]) := by decide
  have herrors : (run ["h", "x\ny"] .quiet).errors =
      errorLine (CommandFault.unrecognized ["x\ny"]).message := by
    rw [(returns_of_fault hfault).1]
  refine ⟨hfault, herrors.trans (by decide), ?_⟩
  rw [herrors, oneLine_errorLine]
  decide

end Telnet.Program
