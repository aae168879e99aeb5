import Telnet.Proofs.Connection.Use

/-!
# A connection that meets failures of the system only

Failures of the system while reading, writing and asking for the status are taken for silence
(`Socket.Allows` says which failures there may be), so that a connection which meets no others never
fails once it is connected (`ends_read`, `ends_write`, `ends_status`). To connect it may fail, with
an error of the client or of the system, or because waiting for it never ends (`outcome_connect`).
-/

namespace Telnet

def Failure.IsSystem : Failure → Prop
  | .system _ => True
  | _ => False

theorem Failure.IsSystem.eq_system {f : Failure} (h : f.IsSystem) : ∃ e, f = .system e := by
  cases f with
  | system e => exact ⟨e, rfl⟩
  | _ => exact h.elim

def Failure.IsErrorNumber (n : Int) : Prop :=
  Failure.errorNumbers.1 ≤ n ∧ n ≤ Failure.errorNumbers.2

namespace Socket

/-- While a socket has `P` waiting ends, what fails fails with `F`, and its calls keep `P`. -/
structure Allows (P : Socket → Prop) (F : Failure → Prop) : Prop where
  hangs : ∀ s, P s → s.hangs = false
  waits : ∀ s outcome rest, P s → s.waits = outcome :: rest →
    P { s with waits := rest } ∧ ∀ f, outcome = some f → F f
  arrivals : ∀ s rest, P s → (∀ f, .failed f ∈ rest → .failed f ∈ s.arrivals) →
    P { s with arrivals := rest }
  arrival : ∀ s f, P s → .failed f ∈ s.arrivals → F f
  acceptances : ∀ s rest, P s → (∀ f, .failed f ∈ rest → F f) → P { s with acceptances := rest }
  acceptance : ∀ s f, P s → .failed f ∈ s.acceptances → F f

theorem outcome_waitWritable_hangs {s : Socket} (h : s.hangs = true) :
    (waitWritable.run s).outcome = .error .stalled := by
  simp [waitWritable, Act.run_bind_eq, h]

theorem Allows.ends_waitWritable {P : Socket → Prop} {F : Failure → Prop} (h : Allows P F) :
    waitWritable.Ends P F P := by
  unfold waitWritable
  apply Act.Ends.bind .emit
  intro _
  apply Act.Ends.read
  intro t ht
  rw [if_neg (by rw [h.hangs t ht]; exact Bool.false_ne_true)]
  cases hwaits : t.waits with
  | nil => exact .pure _
  | cons outcome rest =>
    obtain ⟨hrest, hfails⟩ := h.waits t outcome rest ht hwaits
    apply Act.Ends.bind (.set hrest)
    intro _
    cases outcome with
    | none => exact .pure _
    | some f => exact .throw (hfails f rfl)

theorem Connects.hangs {s : Socket} (h : s.Connects)
    (hstarted : s.hangs = true → s.connectResult ∈ inProgress) : s.hangs = false := by
  apply Bool.eq_false_iff.2
  intro hhangs
  rcases h with hnow | ⟨-, hwait, -⟩
  · have hgoesOn := hstarted hhangs
    rw [hnow] at hgoesOn
    exact absurd hgoesOn (by decide)
  · rw [outcome_waitWritable_hangs hhangs] at hwait
    cases hwait

/-! ### Receiving -/

theorem mem_take {f : Failure} (limit : Nat) (arrivals : List Arrival) :
    ((take limit arrivals).1 = .failed f → .failed f ∈ arrivals) ∧
      (.failed f ∈ (take limit arrivals).2 → .failed f ∈ arrivals) := by
  rcases arrivals with _ | ⟨a, rest⟩
  · simp [take]
  · cases a with
    | data bytes =>
      by_cases hrest : (bytes.drop limit).isEmpty = true <;> simp [take, hrest]
    | blocked => simp [take]
    | ended => simp [take]
    | failed g => simpa [take] using ⟨fun h => .inl h.symm, fun h => .inr h⟩

theorem mem_peek {f : Failure} (arrivals : List Arrival) :
    ((peek arrivals).1 = .failed f → .failed f ∈ arrivals) ∧
      (.failed f ∈ (peek arrivals).2 → .failed f ∈ arrivals) := by
  rcases arrivals with _ | ⟨a, rest⟩
  · exact mem_take 1 []
  · cases a with
    | data bytes => simp [peek]
    | blocked | ended | failed g => exact mem_take 1 _

theorem Allows.yields_receive {P : Socket → Prop} {F : Failure → Prop} (h : Allows P F)
    (limit : Nat) (isPeek : Bool) :
    (receive limit isPeek).Yields P (fun _ => False) fun received s =>
      P s ∧ ∀ f, received = .failed f → F f := by
  intro s hs
  let next := if isPeek then peek s.arrivals else take limit s.arrivals
  have hnext : ∀ f, (next.1 = .failed f → .failed f ∈ s.arrivals) ∧
      (.failed f ∈ next.2 → .failed f ∈ s.arrivals) := by
    intro f
    simp only [next]
    cases isPeek
    · exact mem_take limit s.arrivals
    · exact mem_peek s.arrivals
  refine ⟨h.arrivals s next.2 hs fun f => (hnext f).2, fun f hf => ?_⟩
  exact h.arrival s f hs ((hnext f).1 hf)

end Socket

namespace Link

/-! ### While it is connected -/

/-- A failure that is not taken for silence. -/
def Heard (F : Failure → Prop) (f : Failure) : Prop := F f ∧ ¬f.IsSystem

section Allowing

variable {P : Socket → Prop} {F : Failure → Prop}

theorem yields_receive (h : Socket.Allows P F) (limit : Nat) (isPeek : Bool) :
    (onSocket (Socket.receive limit isPeek)).Yields (fun l => P l.socket) (Heard F)
      fun received l => P l.socket ∧ ∀ f, received = .failed f → F f := by
  have hreceive := h.yields_receive limit isPeek
  have hheard : (Socket.receive limit isPeek).Yields P (Heard F) fun received s =>
      P s ∧ ∀ f, received = .failed f → F f := hreceive
  exact .on hheard (fun _ hl => hl) fun _ _ _ _ hs => hs

theorem ends_read_of (h : Socket.Allows P F) (limit : Option Nat) :
    (read limit).Ends (fun l => P l.socket) (Heard F) fun l => P l.socket := by
  unfold read
  apply Act.Ends.read
  intro t _
  apply Act.Ends.ite
  · intro _
    exact .pure _
  · intro _
    apply Act.Ends.bind_of (yields_receive h _ false)
    intro received
    apply Act.Ends.given
    intro hfails
    cases received with
    | bytes b =>
      apply Act.Ends.ite
      · intro _
        exact .bind (M := fun l => P l.socket) (.update fun _ hl => hl) fun _ => .pure _
      · intro _
        exact .pure _
    | blocked => exact .pure _
    | failed f =>
      cases f with
      | system e =>
        apply Act.Ends.ite
        · intro _
          apply Act.Ends.bind .emit
          intro _
          exact .pure _
        · intro _
          exact .pure _
      | _ => exact .throw ⟨hfails _ rfl, fun hsystem => hsystem⟩

theorem ends_status_of (h : Socket.Allows P F) :
    status.Ends (fun l => P l.socket) (Heard F) fun l => P l.socket := by
  unfold status
  apply Act.Ends.read
  intro t _
  apply Act.Ends.ite
  · intro _
    exact .pure _
  intro _
  apply Act.Ends.ite
  · intro _
    exact .pure _
  intro _
  apply Act.Ends.ite
  · intro _
    exact .pure _
  intro _
  apply Act.Ends.bind_of (yields_receive h 1 true)
  intro received
  apply Act.Ends.given
  intro hfails
  cases received with
  | bytes b =>
    apply Act.Ends.ite
    · intro _
      exact .bind (M := fun l => P l.socket) (.update fun _ hl => hl) fun _ => .pure _
    · intro _
      exact .pure _
  | blocked => exact .pure _
  | failed f =>
    cases f with
    | system e =>
      apply Act.Ends.ite
      · intro _
        exact .pure _
      · intro _
        apply Act.Ends.bind .emit
        intro _
        exact .pure _
    | _ => exact .throw ⟨hfails _ rfl, fun hsystem => hsystem⟩

theorem ends_send_of (h : Socket.Allows P F) (acceptances : List Acceptance)
    (hfails : ∀ f, .failed f ∈ acceptances → F f) (bytes : Bytes) :
    (send acceptances bytes).Ends P F P := by
  induction acceptances generalizing bytes with
  | nil =>
    unfold send
    apply Act.Ends.ite
    · intro _
      exact .pure _
    · intro _
      exact .bind h.ends_waitWritable fun _ => .emit
  | cons outcome rest ih =>
    have hrest : ∀ f, .failed f ∈ rest → F f :=
      fun f hf => hfails f (List.mem_cons_of_mem outcome hf)
    have hnext := ih hrest
    unfold send
    apply Act.Ends.ite
    · intro _
      exact .pure _
    intro _
    apply Act.Ends.bind h.ends_waitWritable
    intro _
    have hset : (modify fun s : Socket => { s with acceptances := rest } :
        Act Effect Socket PUnit).Ends P F P :=
      .update fun s hs => h.acceptances s rest hs hrest
    apply Act.Ends.bind hset
    intro _
    cases outcome with
    | upTo count => exact .bind .emit fun _ => hnext _
    | blocked => exact .bind .emit fun _ => hnext _
    | failed f =>
      have hf := hfails f List.mem_cons_self
      apply Act.Ends.bind .emit
      intro _
      cases f with
      | system e =>
        apply Act.Ends.ite
        · intro _
          exact hnext _
        · intro _
          exact .throw hf
      | _ => exact .throw hf

theorem ends_write_of (h : Socket.Allows P F) (bytes : Bytes) :
    (write bytes).Ends (fun l => P l.socket) (Heard F) fun l => P l.socket := by
  unfold write
  apply Act.Ends.read
  intro t ht
  apply Act.Ends.ite
  · intro _
    exact .pure _
  intro _
  have hfails : ∀ f, .failed f ∈ t.socket.acceptances → F f := fun f => h.acceptance t.socket f ht
  have hkeeps : (send t.socket.acceptances bytes).Leads P Effect.OfTraffic P := by
    apply leads_send
    · intro s outcome rest hs hwaits
      exact (h.waits s outcome rest hs hwaits).1
    · intro s rest hs hsuffix
      exact h.acceptances s rest hs fun f hf => hfails f (hsuffix.mem hf)
  have hends : (onSocket (send t.socket.acceptances bytes)).Ends (fun l => P l.socket) F
      fun l => P l.socket :=
    .on (ends_send_of h _ hfails bytes) (fun _ hl => hl) fun _ _ _ hs => hs
  have hleads : (onSocket (send t.socket.acceptances bytes)).Leads (fun l => P l.socket)
      Effect.OfTraffic fun l => P l.socket :=
    .on hkeeps (fun _ hl => hl) fun _ _ _ hs => hs
  apply Act.Ends.bind_of (hends.attempt hleads)
  intro outcome
  apply Act.Ends.given
  intro hfailed
  cases outcome with
  | ok => exact .pure _
  | error f =>
    cases f with
    | system e => exact .emit
    | _ => exact .throw ⟨hfailed _ rfl, fun hsystem => hsystem⟩

end Allowing

variable {l : Link} {address : Address} {port : Int}

theorem refusal_of_isErrorNumber {error : Int} (h : Failure.IsErrorNumber error) :
    refusal address port error = .client (.connection (.text address.text) (.number port)
      (.text (errorText error))) := by
  have hreason : Failure.explanation error = .ok (errorText error) := if_pos h
  rw [refusal, hreason]

end Link

end Telnet
