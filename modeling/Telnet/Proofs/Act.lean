import Telnet.Act

/-!
# Reasoning about actions

Actions form a lawful monad. `Leads P x E Q` says that the action `x`, started in a state with `P`,
ends in a state with `Q` whether it succeeds or fails, and leaves only events with `E`; `Ends` says
in the same way with what an action may fail. The rules for them follow how actions are composed, so
that one goes through an action once to see what it does.
-/

namespace Telnet.Act

variable {ε σ τ α β : Type}

/-! ### Equations -/

theorem ext {x y : Act ε σ α} (h : ∀ s, x.run s = y.run s) : x = y := funext h

theorem run_bind_eq (x : Act ε σ α) (f : α → Act ε σ β) (s : σ) :
    (x >>= f).run s =
      match (x.run s).outcome with
      | .ok a =>
        ⟨((f a).run (x.run s).state).outcome, ((f a).run (x.run s).state).state,
          (x.run s).events ++ ((f a).run (x.run s).state).events⟩
      | .error e => ⟨.error e, (x.run s).state, (x.run s).events⟩ := by
  rw [run_bind]
  rcases x.run s with ⟨_ | _, _, _⟩ <;> rfl

theorem exists_of_bind_ok {x : Act ε σ α} {f : α → Act ε σ β} {s : σ} {b : β}
    (h : ((x >>= f).run s).outcome = .ok b) :
    ∃ a, (x.run s).outcome = .ok a ∧ ((f a).run (x.run s).state).outcome = .ok b ∧
      ((x >>= f).run s).state = ((f a).run (x.run s).state).state ∧
      ((x >>= f).run s).events = (x.run s).events ++ ((f a).run (x.run s).state).events := by
  rw [run_bind_eq] at h ⊢
  cases hx : (x.run s).outcome with
  | error e =>
    rw [hx] at h
    cases h
  | ok a =>
    rw [hx] at h
    exact ⟨a, rfl, h, rfl, rfl⟩

instance : LawfulMonad (Act ε σ) := by
  refine LawfulMonad.mk' (Act ε σ) ?_ ?_ ?_
  · intro α x
    refine ext fun s => ?_
    change (x >>= pure).run s = x.run s
    rw [run_bind]
    rcases x.run s with ⟨_ | _, _, _⟩ <;> simp
  · intro α β a f
    refine ext fun s => ?_
    rw [run_bind, run_pure]
    rfl
  · intro α β γ x f g
    refine ext fun s => ?_
    simp only [run_bind]
    rcases x.run s with ⟨e | a, t, es⟩
    · rfl
    · simp only
      rcases (f a).run t with ⟨e | b, u, es'⟩ <;> simp

@[simp] theorem run_map (g : α → β) (x : Act ε σ α) (s : σ) :
    (g <$> x).run s = ⟨(x.run s).outcome.map g, (x.run s).state, (x.run s).events⟩ := by
  rw [map_eq_pure_bind, run_bind_eq]
  cases (x.run s).outcome with
  | ok a => simp [Except.map]
  | error e => rfl

theorem discard_eq (x : Act ε σ α) : discard x = (fun _ => ()) <$> x := by
  rw [discard, LawfulFunctor.map_const]
  rfl

theorem ite_pure_bind (c : Prop) [Decidable c] (x : Act ε σ Unit) (next : Unit → Act ε σ β) :
    (if c then x else pure ()) >>= next = if c then x >>= next else next () := by
  by_cases hc : c <;> simp [hc]

/-- From a state with `P` the action ends in one with `Q`, and all its events have `E`. -/
def Leads (P : σ → Prop) (x : Act ε σ α) (E : ε → Prop) (Q : σ → Prop) : Prop :=
  ∀ s, P s → Q (x.run s).state ∧ ∀ e ∈ (x.run s).events, E e

variable {P M Q : σ → Prop} {E : ε → Prop}

namespace Leads

theorem mono {P' Q' : σ → Prop} {x : Act ε σ α} (h : Leads P x E Q) (hP : ∀ s, P' s → P s)
    (hQ : ∀ s, Q s → Q' s) : Leads P' x E Q' := by
  intro s hs
  obtain ⟨hstate, hevents⟩ := h s (hP s hs)
  exact ⟨hQ _ hstate, hevents⟩

theorem allow {E' : ε → Prop} {x : Act ε σ α} (h : Leads P x E Q) (hE : ∀ e, E e → E' e) :
    Leads P x E' Q := by
  intro s hs
  obtain ⟨hstate, hevents⟩ := h s hs
  exact ⟨hstate, fun e he => hE e (hevents e he)⟩

theorem weaken {x : Act ε σ α} (h : Leads P x E M) (hQ : ∀ s, M s → Q s) : Leads P x E Q :=
  h.mono (fun _ hs => hs) hQ

theorem pure (a : α) : Leads P (Pure.pure a : Act ε σ α) E P := by
  intro s hs
  exact ⟨hs, by simp⟩

theorem bind {x : Act ε σ α} {f : α → Act ε σ β} (hx : Leads P x E M)
    (hf : ∀ a, Leads M (f a) E Q) (hM : ∀ s, M s → Q s) : Leads P (x >>= f) E Q := by
  intro s hs
  obtain ⟨hstate, hevents⟩ := hx s hs
  rw [run_bind_eq]
  cases (x.run s).outcome with
  | error e => exact ⟨hM _ hstate, hevents⟩
  | ok a =>
    obtain ⟨hstate', hevents'⟩ := hf a _ hstate
    refine ⟨hstate', ?_⟩
    intro e he
    rcases List.mem_append.1 he with he | he
    · exact hevents e he
    · exact hevents' e he

/-- An action that keeps `P` may stand in front of any other one. -/
theorem before {x : Act ε σ α} {f : α → Act ε σ β} (hx : Leads P x E P)
    (hf : ∀ a, Leads P (f a) E Q) (hP : ∀ s, P s → Q s) : Leads P (x >>= f) E Q :=
  bind hx hf hP

theorem andThen {x : Act ε σ α} {f : α → Act ε σ β} (hx : Leads P x E P)
    (hf : ∀ a, Leads P (f a) E P) : Leads P (x >>= f) E P :=
  before hx hf fun _ hs => hs

theorem bind_get {f : σ → Act ε σ β} (h : ∀ t, P t → Leads (fun s => s = t) (f t) E Q) :
    Leads P (get >>= f) E Q := by
  intro s hs
  obtain ⟨hstate, hevents⟩ := h s hs s rfl
  rw [run_bind_eq]
  exact ⟨hstate, by simpa using hevents⟩

theorem read {f : σ → Act ε σ β} (h : ∀ t, P t → Leads P (f t) E Q) :
    Leads P (get >>= f) E Q :=
  bind_get fun t ht => (h t ht).mono (fun _ hs => hs ▸ ht) fun _ hs => hs

/-- Only the state in which the first action ends is known. -/
theorem state_bind {x : Act ε σ α} {f : α → Act ε σ β} {s : σ} (hx : M (x.run s).state)
    (hf : ∀ a, Leads M (f a) E M) : M ((x >>= f).run s).state := by
  have hfirst : Leads (fun t => t = s) x (fun _ => True) M := by
    rintro _ rfl
    exact ⟨hx, fun _ _ => trivial⟩
  have hrest : ∀ a, Leads M (f a) (fun _ => True) M := by
    intro a t ht
    exact ⟨(hf a t ht).1, fun _ _ => trivial⟩
  exact (hfirst.bind hrest (fun _ ht => ht) s rfl).1

theorem throw (f : Failure) : Leads P (MonadExcept.throw f : Act ε σ α) E P := by
  intro s hs
  exact ⟨hs, fun e he => by cases he⟩

theorem throw_bind (f : Failure) {k : α → Act ε σ β} :
    Leads P ((MonadExcept.throw f : Act ε σ α) >>= k) E P := by
  intro s hs
  exact ⟨hs, fun e he => by cases he⟩

theorem set {t : σ} (h : Q t) : Leads P (MonadState.set t : Act ε σ PUnit) E Q := by
  intro s _
  exact ⟨h, fun e he => by cases he⟩

theorem emit {e : ε} (he : E e) : Leads P (Act.emit e) E P := by
  intro s hs
  refine ⟨hs, ?_⟩
  simpa using he

theorem update {g : σ → σ} (h : ∀ s, P s → Q (g s)) :
    Leads P (modify g : Act ε σ PUnit) E Q := by
  intro s hs
  refine ⟨h s hs, ?_⟩
  intro e he
  cases he

theorem ofExcept {outcome : Except Failure α} :
    Leads P (Act.ofExcept outcome : Act ε σ α) E P := by
  intro s hs
  exact ⟨hs, by simp⟩

theorem attempt {x : Act ε σ α} (h : Leads P x E Q) : Leads P x.attempt E Q := h

theorem discard {x : Act ε σ α} (h : Leads P x E Q) : Leads P (Functor.discard x) E Q := by
  intro s hs
  rw [discard_eq, run_map]
  exact h s hs

theorem tryCatch {x : Act ε σ α} {handler : Failure → Act ε σ α} (hx : Leads P x E P)
    (hhandler : ∀ f, Leads P (handler f) E P) : Leads P (MonadExcept.tryCatch x handler) E P := by
  intro s hs
  obtain ⟨hstate, hevents⟩ := hx s hs
  have hrun : (MonadExcept.tryCatch x handler : Act ε σ α).run s = _ := run_tryCatch x handler s
  rw [hrun]
  rcases hr : x.run s with ⟨f | a, t, es⟩
  · rw [hr] at hstate hevents
    obtain ⟨hstate', hevents'⟩ := hhandler f t hstate
    refine ⟨hstate', fun e he => ?_⟩
    rcases List.mem_append.1 he with he | he
    · exact hevents e he
    · exact hevents' e he
  · rw [hr] at hstate hevents
    exact ⟨hstate, hevents⟩

theorem mapEvents {ε' : Type} {f : ε → ε'} {x : Act ε σ α} {E' : ε' → Prop}
    (h : Leads P x (fun e => E' (f e)) Q) : Leads P (x.mapEvents f) E' Q := by
  intro s hs
  obtain ⟨hstate, hevents⟩ := h s hs
  refine ⟨hstate, fun e he => ?_⟩
  obtain ⟨e', he', rfl⟩ := List.mem_map.1 he
  exact hevents e' he'

theorem on {get : σ → τ} {put : σ → τ → σ} {P' Q' : τ → Prop} {x : Act ε τ α}
    (h : Leads P' x E Q') (hP : ∀ s, P s → P' (get s))
    (hQ : ∀ s t, P s → Q' t → Q (put s t)) : Leads P (x.on get put) E Q := by
  intro s hs
  obtain ⟨hstate, hevents⟩ := h (get s) (hP s hs)
  exact ⟨hQ s _ hs hstate, hevents⟩

theorem ite {c : Prop} [Decidable c] {x y : Act ε σ α} (hx : c → Leads P x E Q)
    (hy : ¬c → Leads P y E Q) : Leads P (if c then x else y) E Q := by
  by_cases hc : c
  · rw [if_pos hc]
    exact hx hc
  · rw [if_neg hc]
    exact hy hc

theorem forM {f : β → Act ε σ PUnit} (l : List β) (h : ∀ b, Leads P (f b) E P) :
    Leads P (l.forM f) E P := by
  induction l with
  | nil => exact pure _
  | cons b l ih =>
    show Leads P (f b >>= fun _ => l.forM f) E P
    exact andThen (h b) fun _ => ih

end Leads

/-! ### How an action ends -/

/-- From a state with `P` the action succeeds with a result and a state that have `R`, or it fails
with a failure with `F`. -/
def Yields (P : σ → Prop) (x : Act ε σ α) (F : Failure → Prop) (R : α → σ → Prop) : Prop :=
  ∀ s, P s → match (x.run s).outcome with
    | .ok a => R a (x.run s).state
    | .error f => F f

/-- The action ends well in a state with `Q`, or it fails with a failure with `F`. -/
def Ends (P : σ → Prop) (x : Act ε σ α) (F : Failure → Prop) (Q : σ → Prop) : Prop :=
  Yields P x F fun _ => Q

variable {F : Failure → Prop}

theorem Yields.on {get : σ → τ} {put : σ → τ → σ} {P' : τ → Prop} {x : Act ε τ α}
    {R' : α → τ → Prop} {R : α → σ → Prop} (h : Yields P' x F R') (hP : ∀ s, P s → P' (get s))
    (hR : ∀ a s t, P s → R' a t → R a (put s t)) : Yields P (x.on get put) F R := by
  intro s hs
  have hyields := h (get s) (hP s hs)
  rw [run_on]
  cases hout : (x.run (get s)).outcome with
  | ok a =>
    rw [hout] at hyields
    exact hR a s _ hs hyields
  | error f =>
    rw [hout] at hyields
    exact hyields

namespace Ends

theorem ok_or_error {x : Act ε σ α} (h : Ends P x F Q) {s : σ} (hs : P s) :
    (∃ a, (x.run s).outcome = .ok a ∧ Q (x.run s).state) ∨
      ∃ f, (x.run s).outcome = .error f ∧ F f := by
  have hends := h s hs
  cases hout : (x.run s).outcome with
  | ok a =>
    rw [hout] at hends
    exact .inl ⟨a, rfl, hends⟩
  | error f =>
    rw [hout] at hends
    exact .inr ⟨f, rfl, hends⟩

theorem mono {P' Q' : σ → Prop} {F' : Failure → Prop} {x : Act ε σ α} (h : Ends P x F Q)
    (hP : ∀ s, P' s → P s) (hF : ∀ f, F f → F' f) (hQ : ∀ s, Q s → Q' s) : Ends P' x F' Q' := by
  intro s hs
  have hends := h s (hP s hs)
  cases hout : (x.run s).outcome with
  | ok a =>
    rw [hout] at hends
    exact hQ _ hends
  | error f =>
    rw [hout] at hends
    exact hF f hends

/-- What is known beside the state may be used from the start. -/
theorem given {known : Prop} {x : Act ε σ α} (h : known → Ends P x F Q) :
    Ends (fun s => P s ∧ known) x F Q :=
  fun s hs => h hs.2 s hs.1

theorem weaken {x : Act ε σ α} (h : Ends P x F M) (hQ : ∀ s, M s → Q s) : Ends P x F Q :=
  h.mono (fun _ hs => hs) (fun _ hf => hf) hQ

theorem pure (a : α) : Ends P (Pure.pure a : Act ε σ α) F P := fun _ hs => hs

theorem bind_of {R : α → σ → Prop} {x : Act ε σ α} {f : α → Act ε σ β} (hx : Yields P x F R)
    (hf : ∀ a, Ends (R a) (f a) F Q) : Ends P (x >>= f) F Q := by
  intro s hs
  have hends := hx s hs
  rw [run_bind_eq]
  cases hout : (x.run s).outcome with
  | error e =>
    rw [hout] at hends
    exact hends
  | ok a =>
    rw [hout] at hends
    exact hf a _ hends

theorem bind {x : Act ε σ α} {f : α → Act ε σ β} (hx : Ends P x F M)
    (hf : ∀ a, Ends M (f a) F Q) : Ends P (x >>= f) F Q :=
  bind_of hx hf

/-- What is attempted succeeds, with the failure as its result if there is one. -/
theorem attempt {x : Act ε σ α} {G : Failure → Prop} (h : Ends P x G Q) (hx : Leads P x E M) :
    Yields P x.attempt F fun outcome s => M s ∧ ∀ f, outcome = .error f → G f := by
  intro s hs
  have hends := h s hs
  have hstate := (hx s hs).1
  refine ⟨hstate, fun f hf => ?_⟩
  change (x.run s).outcome = .error f at hf
  rw [hf] at hends
  exact hends

theorem bind_get {f : σ → Act ε σ β} (h : ∀ t, P t → Ends (fun s => s = t) (f t) F Q) :
    Ends P (get >>= f) F Q := by
  intro s hs
  rw [run_bind_eq]
  exact h s hs s rfl

theorem read {f : σ → Act ε σ β} (h : ∀ t, P t → Ends P (f t) F Q) :
    Ends P (get >>= f) F Q :=
  bind_get fun t ht => (h t ht).mono (fun _ hs => hs ▸ ht) (fun _ hf => hf) fun _ hs => hs

theorem emit {e : ε} : Ends P (Act.emit e) F P := fun _ hs => hs

theorem update {g : σ → σ} (h : ∀ s, P s → Q (g s)) :
    Ends P (modify g : Act ε σ PUnit) F Q :=
  fun s hs => h s hs

theorem set {t : σ} (h : Q t) : Ends P (MonadState.set t : Act ε σ PUnit) F Q :=
  fun _ _ => h

theorem throw {f : Failure} (h : F f) : Ends P (MonadExcept.throw f : Act ε σ α) F Q :=
  fun _ _ => h

theorem ofExcept {outcome : Except Failure α} (hF : ∀ f, outcome = .error f → F f) :
    Ends P (Act.ofExcept outcome : Act ε σ α) F P := by
  intro s hs
  cases outcome with
  | ok a => exact hs
  | error f => exact hF f rfl

theorem ite {c : Prop} [Decidable c] {x y : Act ε σ α} (hx : c → Ends P x F Q)
    (hy : ¬c → Ends P y F Q) : Ends P (if c then x else y) F Q := by
  by_cases hc : c
  · rw [if_pos hc]
    exact hx hc
  · rw [if_neg hc]
    exact hy hc

theorem forM {f : β → Act ε σ PUnit} (l : List β) (h : ∀ b, Ends P (f b) F P) :
    Ends P (l.forM f) F P := by
  induction l with
  | nil => exact pure _
  | cons b l ih =>
    show Ends P (f b >>= fun _ => l.forM f) F P
    exact bind (h b) fun _ => ih

theorem on {get : σ → τ} {put : σ → τ → σ} {P' Q' : τ → Prop} {x : Act ε τ α}
    (h : Ends P' x F Q') (hP : ∀ s, P s → P' (get s))
    (hQ : ∀ s t, P s → Q' t → Q (put s t)) : Ends P (x.on get put) F Q :=
  Yields.on h hP fun _ => hQ

end Ends

end Telnet.Act
