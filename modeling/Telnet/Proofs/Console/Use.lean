import Telnet.Console
import Telnet.Proofs.Act

/-!
# A console in use

What is done at a console while it is in use may set the mode of a terminal at once. What is left
alone is the mode that is to be restored, and whether anything can be displayed (`leads_use`).
-/

namespace Telnet

/-- What a console does while it is in use: a terminal, and nothing else, has its mode set, at once.
-/
def Effect.OfConsole (kind : InputKind) : Effect → Prop
  | .logged _ | .displayed _ | .flushed => True
  | .modeSet change _ => kind = .terminal ∧ change = .now
  | _ => False

namespace Console

/-- A console but for its mode, its input and what the user does. -/
structure Alike (c c' : Console) : Prop where
  kind : c'.kind = c.kind
  savedMode : c'.savedMode = c.savedMode
  displayFailure : c'.displayFailure = c.displayFailure

theorem Alike.refl (c : Console) : Alike c c := ⟨rfl, rfl, rfl⟩

variable {c : Console}

theorem leads_setEcho (enabled : Bool) :
    (setEcho enabled).Leads (Alike c) (Effect.OfConsole c.kind) (Alike c) := by
  unfold setEcho note
  refine .andThen (.emit trivial) fun _ => ?_
  refine .andThen (.update fun _ hs => ⟨hs.1, hs.2, hs.3⟩) fun _ => ?_
  refine .read fun t ht => .ite (fun hkind => ?_) fun _ => .pure _
  refine .andThen .ofExcept fun mode => ?_
  have hset : Effect.OfConsole c.kind (.modeSet .now mode) := ⟨ht.kind.symm.trans hkind, rfl⟩
  exact .andThen (.emit hset) fun _ => .set ⟨ht.1, ht.2, ht.3⟩

/-- To end the session raises a flag and yields the empty line. -/
theorem leads_ending {raise : Console → Console} (h : ∀ t, Alike c t → Alike c (raise t)) :
    (do modify raise; return [] : Act Effect Console Bytes).Leads (Alike c)
      (Effect.OfConsole c.kind) (Alike c) :=
  .andThen (.update h) fun _ => .pure _

theorem leads_readLine : readLine.Leads (Alike c) (Effect.OfConsole c.kind) (Alike c) := by
  unfold readLine noteControl note
  refine .read fun t ht => ?_
  refine .andThen (.set ⟨ht.1, ht.2, ht.3⟩) fun _ => ?_
  refine .ite (fun _ => ?_) fun _ => .ite (fun _ => ?_) fun _ => .ite (fun _ => ?_) fun _ => ?_
  · exact leads_ending fun _ hs => ⟨hs.1, hs.2, hs.3⟩
  · refine .andThen (.emit trivial) fun _ => ?_
    exact leads_ending fun _ hs => ⟨hs.1, hs.2, hs.3⟩
  · refine .andThen (.emit trivial) fun _ => ?_
    exact leads_ending fun _ hs => ⟨hs.1, hs.2, hs.3⟩
  · exact .pure _

theorem leads_display (bytes : Bytes) :
    (display bytes).Leads (Alike c) (Effect.OfConsole c.kind) (Alike c) := by
  unfold display
  refine .ite (fun _ => .read fun t _ => ?_) fun _ => .pure _
  cases t.displayFailure with
  | some f => exact .throw _
  | none =>
    refine .andThen (.emit trivial) fun _ => ?_
    exact .emit trivial

theorem state_display (bytes : Bytes) (c : Console) : ((display bytes).run c).state = c := by
  cases bytes with
  | nil => rfl
  | cons b bytes => cases hfailure : c.displayFailure <;> simp [display, Act.run_bind_eq, hfailure]

theorem state_setEcho (enabled : Bool) (c : Console) :
    ∃ mode, ((setEcho enabled).run c).state = { c with echo := enabled, mode := mode } := by
  by_cases hkind : c.kind = .terminal
  · cases hmode : switchEcho c.mode enabled with
    | error f => exact ⟨c.mode, by simp [setEcho, note, Act.run_bind_eq, hkind, hmode]⟩
    | ok mode => exact ⟨mode, by simp [setEcho, note, Act.run_bind_eq, hkind, hmode]⟩
  · exact ⟨c.mode, by simp [setEcho, note, Act.run_bind_eq, hkind]⟩

theorem leads_interrupt :
    (modify interrupt : Act Effect Console PUnit).Leads (Alike c) (Effect.OfConsole c.kind)
      (Alike c) :=
  .update fun _ hs => ⟨hs.1, hs.2, hs.3⟩

inductive Use where
  | setEcho (enabled : Bool)
  | readLine
  | display (bytes : Bytes)
  | interrupt
  deriving DecidableEq, Repr

def use : Use → Act Effect Console Unit
  | .setEcho enabled => setEcho enabled
  | .readLine => discard readLine
  | .display bytes => display bytes
  | .interrupt => modify interrupt

theorem leads_use (u : Use) :
    (use u).Leads (Alike c) (Effect.OfConsole c.kind) (Alike c) := by
  cases u with
  | setEcho enabled => exact leads_setEcho enabled
  | readLine => exact leads_readLine.discard
  | display bytes => exact leads_display bytes
  | interrupt => exact leads_interrupt

/-- Uses a console, and goes on whatever fails, until this ends well or with a failure. -/
def useAll (uses : List Use) (ending : Except Failure Unit) : Act Effect Console Unit := do
  uses.forM fun u => discard (use u).attempt
  .ofExcept ending

theorem leads_useAll (uses : List Use) (ending : Except Failure Unit) :
    (useAll uses ending).Leads (Alike c) (Effect.OfConsole c.kind) (Alike c) := by
  unfold useAll
  refine .andThen (.forM _ fun u => ?_) fun _ => .ofExcept
  exact (leads_use u).attempt.discard

theorem outcome_useAll (uses : List Use) (ending : Except Failure Unit) (c : Console) :
    ((useAll uses ending).run c).outcome = ending := by
  induction uses generalizing c with
  | nil => rfl
  | cons u uses ih =>
    have hcons : useAll (u :: uses) ending = (do
        discard (use u).attempt
        useAll uses ending) := bind_assoc _ _ _
    simp only [hcons, Act.run_bind_eq, Act.discard_eq, Act.run_map, Act.run_attempt, Except.map]
    exact ih _

end Console

end Telnet
