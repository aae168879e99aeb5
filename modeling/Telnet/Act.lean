import Telnet.Failure.Basic

/-!
# Actions

An action starts in a state and ends in one, with a result or a failure, and leaves a trace of what
it did to its surroundings. The state and the trace survive a failure: what an action did before it
failed stays done. `on` lets an action on a part of a state act on the whole.
-/

namespace Telnet

/-- How an action went: its outcome, the state it left, and its trace. -/
structure Ran (ε σ α : Type) where
  outcome : Except Failure α
  state : σ
  events : List ε

/-- An action on states `σ` with events `ε` and a result `α`. -/
def Act (ε σ α : Type) : Type := σ → Ran ε σ α

namespace Act

variable {ε σ τ α β : Type}

def run (x : Act ε σ α) (s : σ) : Ran ε σ α := x s

instance : Monad (Act ε σ) where
  pure a := fun s => ⟨.ok a, s, []⟩
  bind x f := fun s =>
    match x s with
    | ⟨.ok a, s, es⟩ => ⟨(f a s).outcome, (f a s).state, es ++ (f a s).events⟩
    | ⟨.error e, s, es⟩ => ⟨.error e, s, es⟩

instance : MonadStateOf σ (Act ε σ) where
  get := fun s => ⟨.ok s, s, []⟩
  set s := fun _ => ⟨.ok (), s, []⟩
  modifyGet f := fun s => ⟨.ok (f s).1, (f s).2, []⟩

instance : MonadExceptOf Failure (Act ε σ) where
  throw e := fun s => ⟨.error e, s, []⟩
  tryCatch x handler := fun s =>
    match x s with
    | ⟨.ok a, s, es⟩ => ⟨.ok a, s, es⟩
    | ⟨.error e, s, es⟩ =>
      ⟨(handler e s).outcome, (handler e s).state, es ++ (handler e s).events⟩

def emit (e : ε) : Act ε σ Unit := fun s => ⟨.ok (), s, [e]⟩

/-- The outcome of an action as a result: this never fails. -/
def attempt (x : Act ε σ α) : Act ε σ (Except Failure α) := fun s =>
  ⟨.ok (x s).outcome, (x s).state, (x s).events⟩

/-- An outcome that is already there. -/
def ofExcept (outcome : Except Failure α) : Act ε σ α := fun s => ⟨outcome, s, []⟩

/-- An action on a part of the state. -/
def on (get : σ → τ) (put : σ → τ → σ) (x : Act ε τ α) : Act ε σ α := fun s =>
  ⟨(x (get s)).outcome, put s (x (get s)).state, (x (get s)).events⟩

/-- An action with each of its events under another name. -/
def mapEvents {ε' : Type} (f : ε → ε') (x : Act ε σ α) : Act ε' σ α := fun s =>
  ⟨(x s).outcome, (x s).state, (x s).events.map f⟩

/-! ### Equations -/

@[simp] theorem run_pure (a : α) (s : σ) : (pure a : Act ε σ α).run s = ⟨.ok a, s, []⟩ := rfl

@[simp] theorem run_emit (e : ε) (s : σ) : (emit e).run s = ⟨.ok (), s, [e]⟩ := rfl

@[simp] theorem run_get (s : σ) : (get : Act ε σ σ).run s = ⟨.ok s, s, []⟩ := rfl

@[simp] theorem run_set (s t : σ) : (set t : Act ε σ PUnit).run s = ⟨.ok (), t, []⟩ := rfl

@[simp] theorem run_throw (e : Failure) (s : σ) :
    (throw e : Act ε σ α).run s = ⟨.error e, s, []⟩ := rfl

@[simp] theorem run_modify (f : σ → σ) (s : σ) :
    (modify f : Act ε σ PUnit).run s = ⟨.ok (), f s, []⟩ := rfl

@[simp] theorem run_ofExcept (outcome : Except Failure α) (s : σ) :
    (ofExcept outcome : Act ε σ α).run s = ⟨outcome, s, []⟩ := rfl

@[simp] theorem run_attempt (x : Act ε σ α) (s : σ) :
    x.attempt.run s = ⟨.ok (x.run s).outcome, (x.run s).state, (x.run s).events⟩ := rfl

@[simp] theorem run_on (get : σ → τ) (put : σ → τ → σ) (x : Act ε τ α) (s : σ) :
    (x.on get put).run s =
      ⟨(x.run (get s)).outcome, put s (x.run (get s)).state, (x.run (get s)).events⟩ := rfl

@[simp] theorem run_mapEvents {ε' : Type} (f : ε → ε') (x : Act ε σ α) (s : σ) :
    (x.mapEvents f).run s =
      ⟨(x.run s).outcome, (x.run s).state, (x.run s).events.map f⟩ := rfl

/-- After a success the second action runs and its trace follows the first one; after a failure
nothing more happens. -/
theorem run_bind (x : Act ε σ α) (f : α → Act ε σ β) (s : σ) :
    (x >>= f).run s =
      match x.run s with
      | ⟨.ok a, t, es⟩ => ⟨((f a).run t).outcome, ((f a).run t).state, es ++ ((f a).run t).events⟩
      | ⟨.error e, t, es⟩ => ⟨.error e, t, es⟩ := rfl

theorem run_bind_ok {x : Act ε σ α} {f : α → Act ε σ β} {s t : σ} {a : α} {es : List ε}
    (h : x.run s = ⟨.ok a, t, es⟩) :
    (x >>= f).run s =
      ⟨((f a).run t).outcome, ((f a).run t).state, es ++ ((f a).run t).events⟩ := by
  rw [run_bind, h]

theorem run_bind_error {x : Act ε σ α} {f : α → Act ε σ β} {s t : σ} {e : Failure} {es : List ε}
    (h : x.run s = ⟨.error e, t, es⟩) :
    (x >>= f).run s = ⟨.error e, t, es⟩ := by
  rw [run_bind, h]

/-- A handler runs after a failure, in the state that it left. -/
theorem run_tryCatch (x : Act ε σ α) (handler : Failure → Act ε σ α) (s : σ) :
    (tryCatch x handler : Act ε σ α).run s =
      match x.run s with
      | ⟨.ok a, t, es⟩ => ⟨.ok a, t, es⟩
      | ⟨.error e, t, es⟩ =>
        ⟨((handler e).run t).outcome, ((handler e).run t).state,
          es ++ ((handler e).run t).events⟩ := rfl

end Act

end Telnet
