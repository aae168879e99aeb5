import Telnet.Program
import Telnet.Proofs.Client.Outcome
import Telnet.Proofs.Program
import Telnet.Proofs.Session.Cancelling

/-!
# What an exit code says

An error of the client may arise in the command line, as an address is looked for, as a connection
is opened and connected, or while the session runs. From wherever it comes, it is reported once and
its kind decides the exit code (`exit_code`). Without one the session was held to its end, or the
user interrupted the program before it.
-/

namespace Telnet

/-- An error that is blamed on the command line. -/
def ClientError.IsUsage : ClientError → Prop
  | .usage _ | .invalidAddress _ => True
  | _ => False

theorem ExitCode.number_eq_iff (code : ExitCode) :
    (code.number = 64 ↔ code = .usageError) ∧ (code.number = 1 ↔ code = .failure) ∧
      (code.number = 0 ↔ code = .success) := by
  cases code <;> decide

theorem ClientError.exitCode_eq (c : ClientError) :
    c.exitCode ≠ .success ∧ (c.exitCode = .usageError ↔ c.IsUsage) ∧
      (c.exitCode = .failure ↔ ¬c.IsUsage) := by
  cases c <;> simp [exitCode, IsUsage]

namespace Call

def entered (s : Surroundings) : Surroundings :=
  { s with console := (Console.enter.run s.console).state }

theorem outcome_enter (c : Console) :
    (Console.enter.run c).outcome = .ok () ∨
      (Console.enter.run c).outcome = .error .wrongShape := by
  by_cases hkind : c.kind = .terminal
  · by_cases hmode : c.mode.length = modeLength <;>
      simp [Console.enter, Act.run_bind_eq, hkind, hmode]
  · simp [Console.enter, Act.run_bind_eq, hkind]

theorem outcome_leave (c : Console) : (Console.leave.run c).outcome = .ok () := by
  cases hsaved : c.savedMode <;> simp [Console.leave, Act.run_bind_eq, hsaved]

/-- To leave the console does not change how a call ended. -/
theorem outcome_runInConsole (call : Call) (s : Surroundings) :
    (call.runInConsole.run s).outcome = match (Console.enter.run s.console).outcome with
      | .ok () => (call.run.run (entered s)).outcome
      | .error f => .error f := by
  unfold runInConsole
  rw [Act.run_bind_eq]
  simp only [effects, Surroundings.onConsole, Act.run_mapEvents, Act.run_on]
  cases (Console.enter.run s.console).outcome with
  | error f => rfl
  | ok =>
    simp only [Act.run_bind_eq, Act.run_attempt, Act.run_mapEvents, Act.run_on, outcome_leave,
      Act.run_ofExcept]
    rfl

end Call

namespace Program

/-- The program comes to ask the client for a session. -/
structure Asks (arguments : List String) (e : Environment) (a : Arguments) : Prop where
  command : Arguments.ofCommandLine arguments = .ok (.session a)
  log : ∃ settings, logSettings a e.files = .ok settings
  console : (Console.enter.run e.surroundings.console).outcome = .ok ()

/-- The program comes to hold a session with the pump. -/
def Begins (arguments : List String) (e : Environment) (p : Pump Surroundings) : Prop :=
  ∃ a, Asks arguments e a ∧ (call a e).Holds (Call.entered e.surroundings) p

/-- The error that ends the program, by the place where it arises. -/
inductive EndedBy (arguments : List String) (e : Environment) : ClientError → Prop where
  | commandLine {fault : CommandFault}
      (hfault : Arguments.ofCommandLine arguments = .error fault) :
      EndedBy arguments e (.usage [.text fault.message])
  | resolution {a : Arguments} {endpoint : Endpoint} {c : ClientError} (hasks : Asks arguments e a)
      (hendpoint : Endpoint.ofText a.target = .ok endpoint)
      (hfound : Resolution.found (.service e.names) endpoint.host = .error (.client c)) :
      EndedBy arguments e c
  | opening {p : Pump Surroundings} {c : ClientError} (hbegins : Begins arguments e p)
      (hopened : p.opened.outcome = .error (.client c)) : EndedBy arguments e c
  | connecting {p : Pump Surroundings} {f : Failure} {c : ClientError}
      (hbegins : Begins arguments e p) (hopened : p.opened.outcome = .ok ())
      (hattempted : p.attempted.outcome = .error f)
      (hreported : Pump.reported p.limit p.session.address p.session.port f = .client c) :
      EndedBy arguments e c
  | running {p : Pump Surroundings} {c : ClientError} (hbegins : Begins arguments e p)
      (hconnected : (Pump.connect.run p).outcome = .ok ())
      (hrun : (Pump.run.run (Pump.connect.run p).state).outcome = .error (.client c)) :
      EndedBy arguments e c

def Completes (arguments : List String) (e : Environment) : Prop :=
  ∃ p, Begins arguments e p ∧ (Pump.connect.run p).outcome = .ok () ∧
    (Pump.run.run (Pump.connect.run p).state).outcome = .ok ()

/-- The user interrupts the program before there is a session. -/
def Interrupted (arguments : List String) (e : Environment) : Prop :=
  ∃ a endpoint details, Asks arguments e a ∧ Endpoint.ofText a.target = .ok endpoint ∧
    Resolution.found (.service e.names) endpoint.host = .error (.interrupt details)

variable {arguments : List String} {e : Environment} {a : Arguments}

/-! ### Where an error comes from -/

theorem Asks.eq {b : Arguments} (h : Asks arguments e a) (h' : Asks arguments e b) : a = b := by
  have hboth := h.command.symm.trans h'.command
  injection hboth with hboth
  injection hboth

/-- That there is no terminal type is neither an error of the client nor an interrupt. -/
theorem passed_on_of_term {f : Failure} (h : (call a e).term = .error f) :
    ∀ c details, f ≠ .client c ∧ f ≠ .interrupt details := by
  intro c details
  have hexits := not_exits_term a e h
  rw [exits_error, not_or] at hexits
  refine ⟨?_, fun hinterrupt => hexits.2 ⟨details, hinterrupt⟩⟩
  rintro rfl
  simp only [call] at h
  split at h
  · unfold TerminalType.ofText at h
    split at h <;> cases h
  · cases h

theorem outcome_session (h : Asks arguments e a) :
    ((session a e).run e.surroundings).outcome =
      ((call a e).run.run (Call.entered e.surroundings)).outcome := by
  have hsession : ((session a e).run e.surroundings).outcome =
      ((call a e).runInConsole.run e.surroundings).outcome := rfl
  rw [hsession, Call.outcome_runInConsole, h.console]

theorem session_error_iff (h : Asks arguments e a) {f : Failure} :
    ((session a e).run e.surroundings).outcome = .error f ↔ (call a e).Refuses f ∨
      ∃ p g, (call a e).Holds (Call.entered e.surroundings) p ∧ p.course = .error g ∧
        f = Call.leaveGroup g := by
  rw [outcome_session h]
  exact Call.outcome_error_iff Surroundings.connections

theorem refuses_of_found {endpoint : Endpoint} {f : Failure}
    (hendpoint : Endpoint.ofText (call a e).target = .ok endpoint)
    (hfound : Resolution.found (call a e).resolver endpoint.host = .error f) :
    (call a e).Refuses f :=
  .goal (Call.goal_error_iff.2 (.inr ⟨endpoint, hendpoint, hfound⟩))

/-- An error of the client that leaves a session arose in one of its stages. -/
theorem endedBy_of_outcome (h : Asks arguments e a) {c : ClientError}
    (hc : ((session a e).run e.surroundings).outcome = .error (.client c)) :
    EndedBy arguments e c := by
  rcases (session_error_iff h).1 hc with (⟨hgoal⟩ | ⟨-, hterm⟩) | ⟨p, g, hp, hcourse, hg⟩
  · rcases Call.goal_error_iff.1 hgoal with htext | ⟨endpoint, hendpoint, hfound⟩
    · obtain ⟨fault, hvalue⟩ := Endpoint.value_of_ofText htext
      cases hvalue
    · exact .resolution h hendpoint hfound
  · exact absurd rfl (passed_on_of_term hterm c []).1
  · obtain rfl : g = .client c := by
      cases g <;> cases hg
      rfl
    have hbegins : Begins arguments e p := ⟨a, h, hp⟩
    rcases Pump.course_error_iff.1 hcourse with hopened | ⟨hopened, f, hattempted, hreported⟩ | hrun
    · exact .opening hbegins hopened
    · exact .connecting hbegins hopened hattempted hreported
    · exact .running hbegins hrun.1 hrun.2

theorem outcome_of_course {p : Pump Surroundings} {f : Failure} (h : Asks arguments e a)
    (hbegins : Begins arguments e p) (hcourse : p.course = .error f) :
    ((session a e).run e.surroundings).outcome = .error (Call.leaveGroup f) := by
  obtain ⟨b, hasks, hp⟩ := hbegins
  obtain rfl := h.eq hasks
  exact (session_error_iff h).2 (.inr ⟨p, f, hp, hcourse, rfl⟩)

/-- An error that arises in a stage of a session leaves it. -/
theorem outcome_of_endedBy (h : Asks arguments e a) {c : ClientError}
    (hended : EndedBy arguments e c) :
    ((session a e).run e.surroundings).outcome = .error (.client c) := by
  cases hended with
  | commandLine hfault =>
    have hboth := hfault.symm.trans h.command
    cases hboth
  | resolution hasks hendpoint hfound =>
    obtain rfl := h.eq hasks
    exact (session_error_iff h).2 (.inl (refuses_of_found hendpoint hfound))
  | opening hbegins hopened =>
    have hcourse := Pump.course_error_iff.2 (.inl hopened)
    exact outcome_of_course h hbegins hcourse
  | connecting hbegins hopened hattempted hreported =>
    have hcourse := Pump.course_error_iff.2 (.inr (.inl ⟨hopened, _, hattempted, hreported⟩))
    exact outcome_of_course h hbegins hcourse
  | running hbegins hconnected hrun =>
    have hcourse := Pump.course_error_iff.2 (.inr (.inr ⟨hconnected, hrun⟩))
    exact outcome_of_course h hbegins hcourse

theorem completes_iff (h : Asks arguments e a) :
    Completes arguments e ↔
      ∃ session', ((session a e).run e.surroundings).outcome = .ok session' := by
  rw [outcome_session h, Call.outcome_ok_iff Surroundings.connections]
  constructor
  · rintro ⟨p, ⟨b, hasks, hp⟩, hends⟩
    obtain rfl := h.eq hasks
    exact ⟨p, hp, Pump.course_ok_iff.2 hends⟩
  · rintro ⟨p, hp, hcourse⟩
    exact ⟨p, ⟨a, h, hp⟩, Pump.course_ok_iff.1 hcourse⟩

theorem interrupted_iff (h : Asks arguments e a) :
    Interrupted arguments e ↔
      ∃ details, ((session a e).run e.surroundings).outcome = .error (.interrupt details) := by
  constructor
  · rintro ⟨b, endpoint, details, hasks, hendpoint, hfound⟩
    obtain rfl := h.eq hasks
    exact ⟨details, (session_error_iff h).2 (.inl (refuses_of_found hendpoint hfound))⟩
  · rintro ⟨details, hdetails⟩
    rcases (session_error_iff h).1 hdetails with (⟨hgoal⟩ | ⟨-, hterm⟩) | ⟨p, g, -, -, hg⟩
    · rcases Call.goal_error_iff.1 hgoal with htext | ⟨endpoint, hendpoint, hfound⟩
      · obtain ⟨fault, hvalue⟩ := Endpoint.value_of_ofText htext
        cases hvalue
      · exact ⟨a, endpoint, details, h, hendpoint, hfound⟩
    · exact absurd rfl (passed_on_of_term hterm (.general []) details).2
    · cases g <;> cases hg

/-! ### The exit code -/

def logged (arguments : List String) (e : Environment) : String :=
  match Arguments.ofCommandLine arguments with
  | .ok (.session a) => match logSettings a e.files with
    | .ok settings =>
      settings.errors e.complaint (logPath? a).isSome (records (run arguments e).events)
    | .error _ => ""
  | _ => ""

/-- How the program ends with an exit code: by an error that is reported, at the end of a session,
or by an interrupt before one. -/
inductive Returns (arguments : List String) (e : Environment) (code : ExitCode) : Prop where
  | error {c : ClientError} {message : String} (hended : EndedBy arguments e c)
      (hcode : code = c.exitCode) (hmessage : c.message = .ok message)
      (herrors : (run arguments e).errors = logged arguments e ++ errorLine message)
      (honly : ∀ c', EndedBy arguments e c' → c' = c) (hnot : ¬Completes arguments e)
      (hnot' : ¬Interrupted arguments e)
  | success (hcode : code = .success) (hcompletes : Completes arguments e)
      (herrors : (run arguments e).errors = logged arguments e)
      (hnone : ∀ c, ¬EndedBy arguments e c) (hnot : ¬Interrupted arguments e)
  | interrupt (hcode : code = .success) (hinterrupted : Interrupted arguments e)
      (herrors : (run arguments e).errors = logged arguments e ++ "\n")
      (hnone : ∀ c, ¬EndedBy arguments e c) (hnot : ¬Completes arguments e)

theorem not_asks_of_fault {fault : CommandFault}
    (hfault : Arguments.ofCommandLine arguments = .error fault) (a : Arguments) :
    ¬Asks arguments e a := by
  intro hasks
  have hboth := hfault.symm.trans hasks.command
  cases hboth

/-- A fault of the command line is all that there is to a run. -/
theorem returns_of_fault {fault : CommandFault}
    (hfault : Arguments.ofCommandLine arguments = .error fault) :
    run arguments e = ⟨.ok .usageError, false, [], errorLine fault.message, []⟩ ∧
      Returns arguments e .usageError := by
  have hrun : run arguments e = ⟨.ok .usageError, false, [], errorLine fault.message, []⟩ := by
    rw [run, hfault]
    rfl
  have hlogged : logged arguments e = "" := by rw [logged, hfault]
  have hnone := not_asks_of_fault (e := e) hfault
  refine ⟨hrun, .error (.commandLine hfault) rfl rfl ?_ ?_ ?_ ?_⟩
  · rw [hrun, hlogged, String.empty_append]
    rfl
  · intro c' hended
    cases hended with
    | commandLine hfault' =>
      have hboth := hfault.symm.trans hfault'
      cases hboth
      rfl
    | resolution hasks => exact absurd hasks (hnone _)
    | opening hbegins => exact absurd hbegins.choose_spec.1 (hnone _)
    | connecting hbegins => exact absurd hbegins.choose_spec.1 (hnone _)
    | running hbegins => exact absurd hbegins.choose_spec.1 (hnone _)
  · rintro ⟨p, ⟨b, hasks, -⟩, -⟩
    exact hnone b hasks
  · rintro ⟨b, endpoint, details, hasks, -⟩
    exact hnone b hasks

theorem asks_of_exit {code : ExitCode}
    (hcommand : Arguments.ofCommandLine arguments = .ok (.session a))
    (hexit : (run arguments e).exit = .ok code) : Asks arguments e a := by
  rw [run, hcommand] at hexit
  simp only [runSession] at hexit
  cases hlog : logSettings a e.files with
  | error f =>
    rw [hlog] at hexit
    cases hexit
  | ok settings =>
    refine ⟨hcommand, ⟨settings, hlog⟩, ?_⟩
    rcases Call.outcome_enter e.surroundings.console with hconsole | hconsole
    · exact hconsole
    · have houtcome : ((session a e).run e.surroundings).outcome = .error .wrongShape := by
        have hsession : ((session a e).run e.surroundings).outcome =
            ((call a e).runInConsole.run e.surroundings).outcome := rfl
        rw [hsession, Call.outcome_runInConsole, hconsole]
      rw [hlog] at hexit
      simp only [houtcome, conclude] at hexit
      cases hexit

/-- How the program ends is concluded from how its session does, behind what was logged. -/
theorem run_of_asks (h : Asks arguments e a) :
    let outcome := ((session a e).run e.surroundings).outcome
    (run arguments e).exit = (conclude outcome).1 ∧
      (run arguments e).errors = logged arguments e ++ (conclude outcome).2 := by
  obtain ⟨settings, hlog⟩ := h.log
  have hrun : run arguments e = runSession a e := by
    rw [run, h.command]
  rw [logged, h.command, hrun]
  simp only [hlog, runSession]
  exact ⟨trivial, trivial⟩

theorem returns_of_asks (h : Asks arguments e a) {code : ExitCode}
    (hexit : (run arguments e).exit = .ok code) : Returns arguments e code := by
  obtain ⟨hcode, herrors⟩ := run_of_asks h
  rw [hexit] at hcode
  have hended : ∀ c, EndedBy arguments e c →
      ((session a e).run e.surroundings).outcome = .error (.client c) :=
    fun c => outcome_of_endedBy h
  have hcompletes := completes_iff h
  have hinterrupted := interrupted_iff h
  cases houtcome : ((session a e).run e.surroundings).outcome with
  | ok session' =>
    rw [houtcome] at hended hcode herrors hinterrupted
    refine .success (Except.ok.inj hcode) (hcompletes.2 ⟨session', houtcome⟩) ?_ ?_ ?_
    · rw [herrors]
      exact String.append_empty
    · intro c hc
      cases hended c hc
    · intro hstopped
      obtain ⟨details, hdetails⟩ := hinterrupted.1 hstopped
      cases hdetails
  | error f =>
    rw [houtcome] at hended hcode herrors hcompletes hinterrupted
    cases f with
    | client c =>
      cases hmessage : c.message with
      | error unspoken =>
        simp [conclude, report, hmessage] at hcode
      | ok message =>
        simp only [conclude, report, hmessage, Except.ok.injEq] at hcode herrors
        refine .error (endedBy_of_outcome h houtcome) hcode hmessage herrors ?_ ?_ ?_
        · intro c' hc'
          have hsame := hended c' hc'
          simpa using hsame.symm
        · intro hdone
          obtain ⟨session', hok⟩ := hcompletes.1 hdone
          cases hok
        · intro hstopped
          obtain ⟨details, hdetails⟩ := hinterrupted.1 hstopped
          cases hdetails
    | interrupt details =>
      refine .interrupt (Except.ok.inj hcode) (hinterrupted.2 ⟨details, rfl⟩) herrors ?_ ?_
      · intro c hc
        cases hended c hc
      · intro hdone
        obtain ⟨session', hok⟩ := hcompletes.1 hdone
        cases hok
    | _ => cases hcode

theorem returns {code : ExitCode} (hexit : (run arguments e).exit = .ok code)
    (hreturns : (run arguments e).leftAtOnce = false) : Returns arguments e code := by
  cases hcommand : Arguments.ofCommandLine arguments with
  | error fault =>
    obtain ⟨hrun, hreturned⟩ := returns_of_fault (e := e) hcommand
    rw [hrun] at hexit
    obtain rfl := Except.ok.inj hexit
    exact hreturned
  | ok wish =>
    cases wish with
    | help =>
      rw [run, hcommand] at hreturns
      cases hreturns
    | session a => exact returns_of_asks (asks_of_exit hcommand hexit) hexit

/-- The last thing that a session which is held to its end asks for is to tell the user that it was
cancelled or that the remote host closed the connection. -/
theorem farewell_of_begins {p : Pump Surroundings}
    (hconnect : (Pump.connect.run p).outcome = .ok ())
    (hrun : (Pump.run.run (Pump.connect.run p).state).outcome = .ok ()) :
    let r := Pump.run.run (Pump.connect.run p).state
    (requests r.events).getLast? = some (.display [Bytes.lineFeed]) ∧
        r.state.sides.console.isCancelled = true ∨
      (requests r.events).getLast? = some (.display closedByHost) := by
  intro r
  obtain ⟨hopened, hattempted⟩ := Pump.connect_ok_iff.1 hconnect
  have hactive : (Pump.connect.run p).state.session.state = .active := by
    rw [(Pump.run_connect_ok p hopened hattempted).2.1]
    rfl
  obtain ⟨-, -, ending, hevents, hwhy⟩ :=
    Pump.ending_of_ok Surroundings.staysCancelled hactive hrun
  have hr : r.events = _ := hevents
  rw [hr, requests_append]
  rcases hwhy with ⟨hcancelled, -, hending⟩ | ⟨hending, front, i, hits, -, hlast⟩
  · refine .inl ⟨?_, hcancelled⟩
    rw [hending, List.getLast?_append]
    rfl
  · refine .inr ?_
    rw [hending, hits, List.flatMap_append, requests_append, requests_nil, List.append_nil,
      List.getLast?_append]
    simp [hlast]

/-- Whenever the program returns, the number that it returns says that an error was blamed on the
command line (64), that another error of the client occurred (1), or that none did (0): then a
session was held until the user or the remote host ended it, or the user interrupted the program
before. An error is reported in one line behind what was logged, and no such line is written without
one. A fault of the command line is all that happens. -/
theorem exit_code (arguments : List String) (e : Environment) (code : ExitCode)
    (hexit : (run arguments e).exit = .ok code)
    (hreturns : (run arguments e).leftAtOnce = false) :
    (code.number = 64 ↔ ∃ c, EndedBy arguments e c ∧ c.IsUsage) ∧
    (code.number = 1 ↔ ∃ c, EndedBy arguments e c ∧ ¬c.IsUsage) ∧
    (code.number = 0 ↔ Completes arguments e ∨ Interrupted arguments e) ∧
    (∀ c, EndedBy arguments e c → ∃ message, c.message = .ok message ∧
      (run arguments e).errors = logged arguments e ++ errorLine message) ∧
    (Completes arguments e → (run arguments e).errors = logged arguments e) ∧
    (Interrupted arguments e → (run arguments e).errors = logged arguments e ++ "\n") ∧
    (∀ p, Begins arguments e p → (Pump.connect.run p).outcome = .ok () →
      (Pump.run.run (Pump.connect.run p).state).outcome = .ok () →
      let r := Pump.run.run (Pump.connect.run p).state
      (requests r.events).getLast? = some (.display [Bytes.lineFeed]) ∧
          r.state.sides.console.isCancelled = true ∨
        (requests r.events).getLast? = some (.display closedByHost)) ∧
    ∀ fault, Arguments.ofCommandLine arguments = .error fault → ∀ e' : Environment,
      run arguments e' = ⟨.ok .usageError, false, [], errorLine fault.message, []⟩ := by
  have hends := fun (p : Pump Surroundings) (_ : Begins arguments e p) =>
    farewell_of_begins (p := p)
  have hfaults : ∀ fault, Arguments.ofCommandLine arguments = .error fault → ∀ e' : Environment,
      run arguments e' = ⟨.ok .usageError, false, [], errorLine fault.message, []⟩ :=
    fun fault hfault e' => (returns_of_fault hfault).1
  obtain ⟨husageNumber, hfailureNumber, hsuccessNumber⟩ := code.number_eq_iff
  rw [husageNumber, hfailureNumber, hsuccessNumber]
  cases returns hexit hreturns with
  | @error c message hended hcode hmessage herrors honly hnot hnot' =>
    obtain ⟨hfails, husage, hother⟩ := c.exitCode_eq
    have hsame : ∀ P : ClientError → Prop, (∃ c', EndedBy arguments e c' ∧ P c') ↔ P c := by
      intro P
      refine ⟨?_, fun h => ⟨c, hended, h⟩⟩
      rintro ⟨c', hended', h⟩
      rwa [← honly c' hended']
    rw [hcode, hsame, hsame]
    refine ⟨husage, hother, ?_, ?_, fun h => absurd h hnot, fun h => absurd h hnot', hends, hfaults⟩
    · simp [hfails, hnot, hnot']
    · intro c' hended'
      obtain rfl := honly c' hended'
      exact ⟨message, hmessage, herrors⟩
  | success hcode hcompletes herrors hnone hnot =>
    rw [hcode]
    refine ⟨?_, ?_, ?_, fun c hc => absurd hc (hnone c), fun _ => herrors, fun h => absurd h hnot,
      hends, hfaults⟩
    · simp [hnone]
    · simp [hnone]
    · simp [hcompletes]
  | interrupt hcode hinterrupted herrors hnone hnot =>
    rw [hcode]
    refine ⟨?_, ?_, ?_, fun c hc => absurd hc (hnone c), fun h => absurd h hnot, fun _ => herrors,
      hends, hfaults⟩
    · simp [hnone]
    · simp [hnone]
    · simp [hinterrupted]

/-- A host that looks like an address and is none is blamed on the command line. -/
theorem exit_code_of_malformed_address :
    let r := run ["1.2.3"] .quiet
    r.exit.map ExitCode.number = .ok 64 ∧ r.leftAtOnce = false ∧
      (∃ c, EndedBy ["1.2.3"] .quiet c ∧ c.IsUsage) ∧
      r.errors = "Error: Invalid address format: '1.2.3'\n" := by
  have hexit : (run ["1.2.3"] .quiet).exit = .ok .usageError := rfl
  have hreturns : (run ["1.2.3"] .quiet).leftAtOnce = false := rfl
  obtain ⟨husage, -⟩ := exit_code ["1.2.3"] .quiet .usageError hexit hreturns
  exact ⟨by rw [hexit]; rfl, hreturns, husage.1 rfl, by decide⟩

end Program

end Telnet
