import Telnet.Proofs.Console.Use

/-!
# The mode of a terminal is restored

A terminal that is entered, used and left has in the end the mode it had on entering, whatever fails
in between: the mode that was saved is restored, once, and none before it takes effect later
(`run_inside`).
-/

namespace Telnet

def Effect.modeSet? : Effect → Option (ModeChange × Mode)
  | .modeSet change mode => some (change, mode)
  | _ => none

/-- The modes that some effects set, and when each of them takes effect. -/
def modeSets (es : List Effect) : List (ModeChange × Mode) := es.filterMap Effect.modeSet?

@[simp] theorem modeSets_append (a b : List Effect) :
    modeSets (a ++ b) = modeSets a ++ modeSets b := by
  simp only [modeSets, List.filterMap_append]

theorem of_mem_modeSets {es : List Effect} {change : ModeChange} {mode : Mode}
    (h : (change, mode) ∈ modeSets es) : .modeSet change mode ∈ es := by
  obtain ⟨e, he, heq⟩ := List.mem_filterMap.1 h
  cases e with
  | modeSet =>
    cases heq
    exact he
  | _ => cases heq

/-- A mode is set only of a terminal and at once. -/
def Effect.SetsNow (kind : InputKind) (e : Effect) : Prop :=
  ∀ change mode, e = .modeSet change mode → kind = .terminal ∧ change = .now

theorem Effect.OfConsole.setsNow {kind : InputKind} {e : Effect} (h : e.OfConsole kind) :
    e.SetsNow kind := by
  rintro change mode rfl
  exact h

namespace Console

/-! ### Entering and leaving -/

theorem run_enter (c : Console) (hmode : c.kind = .terminal → c.mode.length = modeLength) :
    enter.run c =
      ⟨.ok (), if c.kind = .terminal then { c with savedMode := some c.mode } else c, []⟩ := by
  by_cases hkind : c.kind = .terminal
  · simp [enter, Act.run_bind_eq, hkind, hmode hkind]
  · simp [enter, Act.run_bind_eq, hkind]

theorem run_leave_saved {c : Console} {mode : Mode} (h : c.savedMode = some mode) :
    leave.run c =
      ⟨.ok (), { c with mode := mode, savedMode := none }, [.modeSet .afterFlush mode]⟩ := by
  simp [leave, Act.run_bind_eq, h]

theorem run_leave_none {c : Console} (h : c.savedMode = none) : leave.run c = ⟨.ok (), c, []⟩ := by
  simp [leave, Act.run_bind_eq, h]

/-! ### From entering to leaving -/

/-- Enters a console, does something there, and leaves it, whatever the outcome. -/
def inside {α : Type} (body : Act Effect Console α) : Act Effect Console α := do
  enter
  let outcome ← body.attempt
  leave
  .ofExcept outcome

/-- The last mode that is set is that of the console, after a flush, and any before it takes effect
at once; of what is no terminal no mode is set. -/
def SetsBack (c : Console) (es : List Effect) : Prop :=
  (c.kind = .terminal → ∃ switched, modeSets es = switched ++ [(.afterFlush, c.mode)] ∧
    ∀ s ∈ switched, s.1 = .now) ∧
  (c.kind ≠ .terminal → modeSets es = [])

theorem setsBack_append {c : Console} {es : List Effect} (h : ∀ e ∈ es, e.SetsNow c.kind) :
    c.SetsBack (es ++ if c.kind = .terminal then [.modeSet .afterFlush c.mode] else []) := by
  have hset : ∀ s ∈ modeSets es, c.kind = .terminal ∧ s.1 = .now :=
    fun s hs => h _ (of_mem_modeSets hs) s.1 s.2 rfl
  refine ⟨fun hkind => ⟨modeSets es, ?_, fun s hs => (hset s hs).2⟩, fun hkind => ?_⟩
  · rw [if_pos hkind, modeSets_append]
    rfl
  · rw [if_neg hkind, List.append_nil]
    exact List.eq_nil_iff_forall_not_mem.2 fun s hs => hkind (hset s hs).1

/-- A terminal has the mode that it had, and to leave the console again does nothing. -/
structure Restored (before after : Console) : Prop where
  mode : before.kind = .terminal → after.mode = before.mode
  leave : leave.run after = ⟨.ok (), after, []⟩

def left (before used : Console) : Console :=
  if before.kind = .terminal then { used with mode := before.mode, savedMode := none } else used

theorem run_leave_alike {before used : Console} (hfresh : before.savedMode = none)
    (h : Alike (enter.run before).state used)
    (hmode : before.kind = .terminal → before.mode.length = modeLength) :
    leave.run used = ⟨.ok (), before.left used,
      if before.kind = .terminal then [.modeSet .afterFlush before.mode] else []⟩ ∧
      before.Restored (before.left used) := by
  have hsaved := h.savedMode
  rw [run_enter before hmode] at hsaved
  by_cases hkind : before.kind = .terminal
  · rw [if_pos hkind] at hsaved
    rw [run_leave_saved hsaved, left, if_pos hkind, if_pos hkind]
    exact ⟨rfl, fun _ => rfl, run_leave_none rfl⟩
  · rw [if_neg hkind, hfresh] at hsaved
    rw [run_leave_none hsaved, left, if_neg hkind, if_neg hkind]
    exact ⟨rfl, fun h => absurd h hkind, run_leave_none hsaved⟩

theorem kind_enter {c : Console} (hmode : c.kind = .terminal → c.mode.length = modeLength) :
    (enter.run c).state.kind = c.kind := by
  rw [run_enter c hmode]
  show Console.kind (if c.kind = .terminal then _ else _) = c.kind
  split <;> rfl

theorem run_inside {c : Console} (hfresh : c.savedMode = none)
    (hmode : c.kind = .terminal → c.mode.length = modeLength) (uses : List Use)
    (ending : Except Failure Unit) :
    let r := (inside (useAll uses ending)).run c
    r.outcome = ending ∧ c.Restored r.state ∧ c.SetsBack r.events := by
  intro r
  have hentered := run_enter c hmode
  obtain ⟨halike, hevents⟩ := leads_useAll uses ending (enter.run c).state (.refl _)
  rw [kind_enter hmode] at hevents
  have hending := outcome_useAll uses ending (enter.run c).state
  obtain ⟨hleave, hrestored⟩ := run_leave_alike hfresh halike hmode
  have hr : r = ⟨ending, c.left ((useAll uses ending).run (enter.run c).state).state,
      ((useAll uses ending).run (enter.run c).state).events ++
        if c.kind = .terminal then [.modeSet .afterFlush c.mode] else []⟩ := by
    rw [hentered] at hleave hending ⊢
    simp [r, inside, Act.run_bind_eq, hentered, hleave, hending]
  rw [hr]
  exact ⟨rfl, hrestored, setsBack_append fun e he => (hevents e he).setsNow⟩

end Console

end Telnet
