import Telnet.Program
import Telnet.Proofs.Client.Resolving
import Telnet.Proofs.Console.Restoring
import Telnet.Proofs.Session.Surroundings

/-!
# The mode of the terminal after a session

However a session goes, and if it fails before it begins, the terminal has its mode back afterwards
(`terminal_restored`): nothing that a client does touches the mode that the console has saved.
-/

namespace Telnet

theorem Effect.OfSession.setsNow {kind : InputKind} {e : Effect} (h : e.OfSession kind) :
    e.SetsNow kind := by
  rcases h with h | h | ⟨seconds, rfl⟩ | ⟨seconds, rfl⟩
  · exact h.setsNow
  · rintro change mode rfl
    exact h.elim
  · rintro change mode heq
    cases heq
  · rintro change mode heq
    cases heq

theorem Effect.OfScope.setsNow {kind : InputKind} {e : Effect} (h : e.OfScope) :
    e.SetsNow kind := by
  rintro change mode rfl
  rcases h with h | h | h | h
  · exact h.elim
  · exact h.elim
  all_goals cases h

abbrev Surroundings.AlikeAt (c : Console) : Surroundings → Prop := Alike c fun _ => True

namespace Call

open Surroundings

variable {c : Console}

theorem leads_conduct {pump : Surroundings → Pump Surroundings} (h : ∀ s, (pump s).sides = s) :
    (conduct pump).Leads (AlikeAt c) (Event.Only (Effect.SetsNow c.kind)) (AlikeAt c) := by
  have hkeeps : Sides.Keeps (AlikeAt c) (Effect.SetsNow c.kind) :=
    (keeps_alike fun _ _ _ _ _ _ => trivial).allow fun _ he => he.setsNow
  have hnetwork : ∀ s n, AlikeAt c s → AlikeAt c { s with network := n } :=
    fun _ _ hs => ⟨hs.1, trivial⟩
  have hconduct := Pump.leads_conduct hkeeps
    (fun family => (leads_openFor hnetwork family).allow fun _ he => he.setsNow)
    (fun address port => (leads_connect hnetwork address port).allow fun _ he => he.setsNow)
    ((leads_close hnetwork).allow fun _ he => he.setsNow)
  intro s hs
  refine hconduct (.outside, pump s) ?_
  show AlikeAt c (pump s).sides
  rwa [h]

theorem leads_run (call : Call) :
    call.run.Leads (AlikeAt c) (Event.Only (Effect.SetsNow c.kind)) (AlikeAt c) := by
  rw [run_eq]
  refine .andThen (call.leads_destination ?_) fun destination => ?_
  · intro e he f hf
    cases hf
    rintro change mode rfl
    exact he.elim
  · unfold visit
    refine .andThen (.mapEvents (.emit ?_)) fun _ => ?_
    · intro f hf
      cases hf
      rintro change mode heq
      cases heq
    · refine .andThen .ofExcept fun term => ?_
      exact leads_conduct fun _ => rfl

/-- A console that was used by a client is left as it was found. -/
theorem run_runInConsole (call : Call) {s : Surroundings} (hfresh : s.console.savedMode = none)
    (hmode : s.console.kind = .terminal → s.console.mode.length = modeLength) :
    let entered : Surroundings := { s with console := (Console.enter.run s.console).state }
    let r := call.runInConsole.run s
    r.outcome = (call.run.run entered).outcome ∧ s.console.Restored r.state.console ∧
      s.console.SetsBack (effectsOf r.events) := by
  intro entered r
  have hentered := Console.run_enter s.console hmode
  obtain ⟨⟨halike, -⟩, hevents⟩ := call.leads_run entered ⟨.refl _, trivial⟩
  rw [Console.kind_enter hmode] at hevents
  obtain ⟨hleave, hrestored⟩ := Console.run_leave_alike hfresh halike hmode
  have hr : r = ⟨(call.run.run entered).outcome,
      { (call.run.run entered).state with
        console := s.console.left (call.run.run entered).state.console },
      (call.run.run entered).events ++ (if s.console.kind = .terminal then
        [Effect.modeSet .afterFlush s.console.mode] else []).map .effect⟩ := by
    have hok : (Console.enter.run s.console).outcome = .ok () := by rw [hentered]
    have hsilent : (Console.enter.run s.console).events = [] := by rw [hentered]
    have hrun : r = (do
        let outcome ← Act.attempt call.run
        effects (onConsole Console.leave)
        .ofExcept outcome : Act Event Surroundings Session).run entered := by
      simp only [r, entered, runInConsole, effects, onConsole]
      rw [Act.run_bind_eq]
      simp [hok, hsilent]
    rw [hrun]
    simp [Act.run_bind_eq, effects, onConsole, hleave]
  rw [hr, effectsOf_append, effectsOf_effects]
  refine ⟨rfl, hrestored, Console.setsBack_append fun e he => ?_⟩
  exact hevents _ (mem_effectsOf.1 he) e rfl

end Call

/-! ### The program -/

namespace Program

/-- Without a session nothing happens. -/
theorem events_run (arguments : List String) (e : Environment) :
    (run arguments e).events = [] ∨
      ∃ a, (run arguments e).events = ((session a e).run e.surroundings).events := by
  unfold run
  cases Arguments.ofCommandLine arguments with
  | error fault => exact .inl rfl
  | ok command =>
    cases command with
    | help => exact .inl rfl
    | session a =>
      simp only [runSession]
      cases logSettings a e.files with
      | error f => exact .inl rfl
      | ok settings => exact .inr ⟨a, rfl⟩

theorem events_session (a : Arguments) (e : Environment) :
    ∃ record, ((session a e).run e.surroundings).events =
      .effect (.logged record) :: ((call a e).runInConsole.run e.surroundings).events := by
  refine ⟨.debug Log.clientLogger .settings
    [.words ("Client configuration: " ++ (configuration a).text)], ?_⟩
  rw [session, Act.run_bind_eq]
  rfl

end Program

/-- A terminal has the mode that it had before, however its console was used, whatever a client met
with, and whatever became of the program: it is set back once, after a flush, when the console is
left. Anything else has no mode set. -/
theorem terminal_restored (c : Console) (hfresh : c.savedMode = none)
    (hmode : c.kind = .terminal → c.mode.length = modeLength) (uses : List Console.Use)
    (ending : Except Failure Unit) (network : Network) (call : Call) (arguments : List String)
    (names : NameService) (polls : List Poll) (files : Log.Files)
    (complaint : Log.Record → String) :
    let block := (Console.inside (Console.useAll uses ending)).run c
    let client := call.runInConsole.run ⟨c, network⟩
    let program := Program.run arguments ⟨names, polls, ⟨c, network⟩, files, complaint⟩
    (block.outcome = ending ∧ c.Restored block.state ∧ c.SetsBack block.events) ∧
      (client.outcome =
          (call.run.run (⟨(Console.enter.run c).state, network⟩ : Surroundings)).outcome ∧
        c.Restored client.state.console ∧ c.SetsBack (effectsOf client.events)) ∧
      (program.events = [] ∨ c.SetsBack (effectsOf program.events)) := by
  intro block client program
  refine ⟨Console.run_inside hfresh hmode uses ending,
    call.run_runInConsole (s := ⟨c, network⟩) hfresh hmode, ?_⟩
  let e : Environment := ⟨names, polls, ⟨c, network⟩, files, complaint⟩
  rcases Program.events_run arguments e with hnone | ⟨a, hsome⟩
  · exact .inl hnone
  · obtain ⟨record, hsession⟩ := Program.events_session a e
    have hback := (Program.call a e).run_runInConsole (s := ⟨c, network⟩) hfresh hmode
    refine .inr ?_
    show c.SetsBack (effectsOf program.events)
    rw [show program.events = _ from hsome, hsession]
    exact hback.2.2

/-- A terminal without echo, whose echo is switched on and off, in a session that fails. -/
theorem terminal_restored_without_echo :
    let mode : Mode := [.number 0, .number 0, .number 0, .number 5, .number 15, .number 15,
      .characters []]
    let c := Console.fresh .terminal mode [] none
    let block := (Console.inside (Console.useAll [.setEcho true, .setEcho false]
      (.error .stalled))).run c
    c.savedMode = none ∧ c.mode.length = modeLength ∧ block.outcome = .error .stalled ∧
      block.state.mode = mode ∧
      modeSets block.events = [(.now, mode.set localFlagsPlace (.number 13)), (.now, mode),
        (.afterFlush, mode)] := by
  intro mode c block
  obtain ⟨⟨houtcome, hrestored, -⟩, -, -⟩ := terminal_restored c rfl (fun _ => rfl)
    [.setEcho true, .setEcho false] (.error .stalled) (.fresh .silent)
    ⟨"", .endless, .ok .standard, .service (.ok []), [], true⟩ [] (.ok []) [] ⟨[], []⟩ fun _ => ""
  exact ⟨rfl, rfl, houtcome, hrestored.mode rfl, rfl⟩

end Telnet
