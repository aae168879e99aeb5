import Telnet.Connection.Link
import Telnet.Proofs.Act

/-!
# A connection in use

A connection in use waits, receives and sends, and stays open (`staysOpen_read`, `staysOpen_write`,
`staysOpen_status`). To connect it is one call on its socket, and more only if that call does not
settle the matter at once (`events_connect`).
-/

namespace Telnet

def Effect.OfTraffic : Effect → Prop
  | .logged _ | .waitWritable | .receive _ _ | .sent _ | .sendBlocked | .sendFailed => True
  | _ => False

def Effect.OfOpening : Effect → Prop
  | .created _ | .unblocked => True
  | _ => False

def Effect.OfAttempt : Effect → Prop
  | .connecting _ _ | .waitWritable | .errorRead => True
  | _ => False

namespace Socket

theorem events_waitWritable (s : Socket) : (waitWritable.run s).events = [.waitWritable] := by
  rcases s with ⟨openFailure, connectResult, pendingError, hangs, arrivals, acceptances, waits⟩
  cases hangs with
  | true => simp [waitWritable, Act.run_bind_eq]
  | false =>
    rcases waits with _ | ⟨_ | f, waits⟩ <;> simp [waitWritable, Act.run_bind_eq]

/-- The rest of an attempt to connect that goes on. -/
def settling (s : Socket) : List Effect :=
  .waitWritable :: match (waitWritable.run s).outcome with
    | .ok () => [.errorRead]
    | .error _ => []

/-- What an attempt to connect a socket does. -/
def attempt (s : Socket) (address : Address) (port : Int) : List Effect :=
  .connecting address.text port :: if s.connectResult ∈ inProgress then settling s else []

/-- Nothing stands in the way of connecting a socket, at once or after waiting. -/
def Connects (s : Socket) : Prop :=
  s.connectResult = 0 ∨
    s.connectResult ∈ inProgress ∧ (waitWritable.run s).outcome = .ok () ∧ s.pendingError = 0

/-- The error number that an attempt to connect comes to, unless waiting for it fails. -/
def verdict (s : Socket) : Except Failure Int :=
  if s.connectResult ∈ inProgress then
    (waitWritable.run s).outcome.map fun _ => s.pendingError
  else .ok s.connectResult

variable {s : Socket}

theorem verdict_error_iff {f : Failure} :
    s.verdict = .error f ↔
      s.connectResult ∈ inProgress ∧ (waitWritable.run s).outcome = .error f := by
  by_cases hstarted : s.connectResult ∈ inProgress
  · cases hwait : (waitWritable.run s).outcome <;> simp [verdict, hstarted, hwait, Except.map]
  · simp [verdict, hstarted]

theorem verdict_ok_iff {error : Int} :
    s.verdict = .ok error ↔
      s.connectResult ∉ inProgress ∧ s.connectResult = error ∨
        s.connectResult ∈ inProgress ∧ (waitWritable.run s).outcome = .ok () ∧
          s.pendingError = error := by
  by_cases hstarted : s.connectResult ∈ inProgress
  · cases hwait : (waitWritable.run s).outcome <;> simp [verdict, hstarted, hwait, Except.map]
  · simp [verdict, hstarted]

theorem connects_iff : s.Connects ↔ s.verdict = .ok 0 := by
  have hzero : s.connectResult = 0 → s.connectResult ∉ inProgress := by
    intro hnow
    rw [hnow]
    decide
  rw [verdict_ok_iff, Connects]
  constructor
  · rintro (hnow | hlater)
    · exact .inl ⟨hzero hnow, hnow⟩
    · exact .inr hlater
  · rintro (⟨-, hnow⟩ | hlater)
    · exact .inl hnow
    · exact .inr hlater

end Socket

namespace Link

theorem leads_openOver {σ : Type} {P : σ → Prop} (socket : Socket) (family : Family)
    (chunk : Nat) : (openOver socket family chunk).Leads P Effect.OfOpening P := by
  unfold openOver
  refine .andThen (.emit trivial) fun _ => ?_
  cases socket.openFailure with
  | none =>
    exact .andThen (.emit trivial) fun _ => .pure _
  | some f => cases f <;> exact .throw _

/-! ### Writing -/

section Sending

variable {P : Socket → Prop}

theorem leads_waitWritable {E : Effect → Prop} (h : E .waitWritable)
    (hwaits : ∀ s outcome rest, P s → s.waits = outcome :: rest → P { s with waits := rest }) :
    Socket.waitWritable.Leads P E P := by
  unfold Socket.waitWritable
  refine .andThen (.emit h) fun _ => ?_
  refine .read fun t ht => ?_
  refine .ite (fun _ => .throw_bind _) fun _ => ?_
  cases hsome : t.waits with
  | nil => exact .pure _
  | cons outcome rest =>
    refine .andThen (.set (hwaits t outcome rest ht hsome)) fun _ => ?_
    cases outcome with
    | none => exact .pure _
    | some f => exact .throw _

theorem leads_send
    (hwaits : ∀ s outcome rest, P s → s.waits = outcome :: rest → P { s with waits := rest })
    (acceptances : List Acceptance)
    (haccepts : ∀ s rest, P s → rest <:+ acceptances → P { s with acceptances := rest })
    (bytes : Bytes) : (send acceptances bytes).Leads P Effect.OfTraffic P := by
  have hwait := leads_waitWritable (E := Effect.OfTraffic) trivial hwaits
  induction acceptances generalizing bytes with
  | nil =>
    unfold send
    refine .ite (fun _ => .pure _) fun _ => ?_
    exact .andThen hwait fun _ => .emit trivial
  | cons outcome rest ih =>
    have hrest := ih fun s more hs hmore => haccepts s more hs (List.suffix_cons_iff.2 (.inr hmore))
    unfold send
    refine .ite (fun _ => .pure _) fun _ => ?_
    refine .andThen hwait fun _ => ?_
    refine .andThen (.update fun s hs => haccepts s rest hs (List.suffix_cons _ _)) fun _ => ?_
    cases outcome with
    | upTo count =>
      exact .andThen (.emit trivial) fun _ => hrest _
    | blocked => exact .andThen (.emit trivial) fun _ => hrest _
    | failed f =>
      refine .andThen (.emit trivial) fun _ => ?_
      cases f with
      | system e => exact .ite (fun _ => hrest _) fun _ => .throw _
      | _ => exact .throw _

end Sending

/-- A connection but for what its socket does otherwise than to receive. -/
def Alike (l l' : Link) : Prop :=
  ∃ s : Socket, s.arrivals = l.socket.arrivals ∧ l' = { l with socket := s }

theorem leads_onSocket {α : Type} {x : Act Effect Socket α} {E : Effect → Prop} (l : Link)
    (h : x.Leads (fun s => s.arrivals = l.socket.arrivals) E
      fun s => s.arrivals = l.socket.arrivals) :
    (onSocket x).Leads (Alike l) E (Alike l) := by
  refine .on h ?_ ?_
  · rintro _ ⟨s, hs, rfl⟩
    exact hs
  · rintro _ s' ⟨s, -, rfl⟩ hs'
    exact ⟨s', hs', rfl⟩

theorem leads_write (l : Link) (bytes : Bytes) :
    (write bytes).Leads (Alike l) Effect.OfTraffic (Alike l) := by
  rw [write]
  refine .read fun t ht => ?_
  refine .ite (fun _ => .pure _) fun _ => ?_
  have hsend := leads_onSocket l
    (leads_send (fun _ _ _ hs _ => hs) t.socket.acceptances (fun _ _ hs _ => hs) bytes)
  refine .andThen hsend.attempt fun outcome => ?_
  rcases outcome with f | _
  · cases f with
    | system e => exact .emit trivial
    | _ => exact .throw _
  · exact .pure _

/-! ### Connecting -/

/-- What is left to do once the error number is known. -/
def conclude (address : Address) (port error : Int) : Act Effect Link Unit := do
  if error ≠ 0 then
    let reason ← .ofExcept (Failure.explanation error)
    throw (.client (.connection (.text address.text) (.number port) (.text reason)))
  modify fun link => { link with connected := true }

def refusal (address : Address) (port error : Int) : Failure :=
  match Failure.explanation error with
  | .ok reason => .client (.connection (.text address.text) (.number port) (.text reason))
  | .error f => f

theorem run_conclude (address : Address) (port error : Int) (l : Link) :
    (conclude address port error).run l =
      if error = 0 then ⟨.ok (), { l with connected := true }, []⟩
      else ⟨.error (refusal address port error), l, []⟩ := by
  by_cases herror : error = 0
  · simp [conclude, herror]
  · cases hreason : Failure.explanation error <;>
      simp [conclude, refusal, herror, Act.run_bind_eq, hreason]

def attempt (address : Address) (port : Int) : Act Effect Link Int := do
  let link ← get
  if !link.isOpen then throw .absentPart
  .emit (.connecting address.text port)
  if inProgress.contains link.socket.connectResult then do
    onSocket Socket.waitWritable
    .emit .errorRead
    return link.socket.pendingError
  else return link.socket.connectResult

theorem connect_eq (address : Address) (port : Int) :
    connect address port = attempt address port >>= conclude address port := by
  simp only [connect, attempt, bind_assoc]
  congr 1
  funext link
  by_cases hopen : link.isOpen = true
  · by_cases hstarted : inProgress.contains link.socket.connectResult = true
    · simp only [hopen, Bool.not_true, Bool.false_eq_true, if_false, if_pos hstarted, bind_assoc,
        pure_bind]
      rfl
    · simp only [hopen, Bool.not_true, Bool.false_eq_true, if_false, if_neg hstarted, bind_assoc,
        pure_bind]
      rfl
  · simp [hopen]
    rfl

theorem leads_attempt {P : Link → Prop} (address : Address) (port : Int)
    (hwait : (onSocket Socket.waitWritable).Leads P Effect.OfAttempt P) :
    (attempt address port).Leads P Effect.OfAttempt P := by
  unfold attempt
  refine .read fun t _ => ?_
  refine .ite (fun _ => .throw_bind _) fun _ => ?_
  refine .andThen (.emit trivial) fun _ => ?_
  refine .ite (fun _ => ?_) fun _ => .pure _
  refine .andThen hwait fun _ => ?_
  exact .andThen (.emit trivial) fun _ => .pure _

theorem leads_connect {P : Link → Prop} (address : Address) (port : Int)
    (hwait : (onSocket Socket.waitWritable).Leads P Effect.OfAttempt P)
    (hP : ∀ l, P l → P { l with connected := true }) :
    (connect address port).Leads P Effect.OfAttempt P := by
  rw [connect_eq]
  refine .andThen (leads_attempt address port hwait) fun error => ?_
  unfold conclude
  refine .ite (fun _ => ?_) fun _ => .update hP
  exact .andThen .ofExcept fun _ => .throw_bind _

theorem leads_wait (l : Link) :
    (onSocket Socket.waitWritable).Leads (Alike l) Effect.OfAttempt (Alike l) :=
  leads_onSocket l (leads_waitWritable trivial fun _ _ _ hs _ => hs)

variable {l : Link}

theorem run_attempt (address : Address) (port : Int) (hopen : l.isOpen = true) :
    let r := (attempt address port).run l
    r.outcome = l.socket.verdict ∧ r.events = l.socket.attempt address port := by
  have hwait := l.socket.events_waitWritable
  by_cases hstarted : l.socket.connectResult ∈ inProgress
  · cases hout : (Socket.waitWritable.run l.socket).outcome <;>
      simp [attempt, Act.run_bind_eq, hopen, hstarted, onSocket, hwait, hout,
        Socket.attempt, Socket.settling, Socket.verdict, Except.map]
  · simp [attempt, Act.run_bind_eq, hopen, hstarted, Socket.attempt, Socket.verdict, Except.map]

theorem connected_attempt (address : Address) (port : Int) (l : Link) :
    ((attempt address port).run l).state.connected = l.connected := by
  obtain ⟨⟨s, -, hstate⟩, -⟩ := leads_attempt address port (leads_wait l) l ⟨l.socket, rfl, rfl⟩
  rw [hstate]

theorem run_connect (address : Address) (port : Int) (l : Link) :
    let tried := (attempt address port).run l
    (connect address port).run l =
      match tried.outcome with
      | .error f => ⟨.error f, tried.state, tried.events⟩
      | .ok error =>
        if error = 0 then ⟨.ok (), { tried.state with connected := true }, tried.events⟩
        else ⟨.error (refusal address port error), tried.state, tried.events⟩ := by
  intro tried
  rw [connect_eq, Act.run_bind_eq]
  cases ((attempt address port).run l).outcome with
  | error f => simp [tried]
  | ok error => by_cases herror : error = 0 <;> simp [tried, run_conclude, herror]

theorem events_connect (address : Address) (port : Int) (hopen : l.isOpen = true) :
    ((connect address port).run l).events = l.socket.attempt address port := by
  obtain ⟨-, hevents⟩ := run_attempt address port hopen
  rw [run_connect]
  split
  · exact hevents
  · split <;> exact hevents

/-- To connect fails where waiting does, and reports any other error. -/
theorem outcome_connect_eq (address : Address) (port : Int) (hopen : l.isOpen = true) :
    ((connect address port).run l).outcome =
      match l.socket.verdict with
      | .error f => .error f
      | .ok error => if error = 0 then .ok () else .error (refusal address port error) := by
  obtain ⟨houtcome, -⟩ := run_attempt address port hopen
  rw [run_connect, houtcome]
  cases l.socket.verdict with
  | error f => rfl
  | ok error => by_cases herror : error = 0 <;> simp [herror]

theorem connected_connect (address : Address) (port : Int) (l : Link) :
    let r := (connect address port).run l
    r.state.connected = true ↔ l.connected = true ∨ r.outcome = .ok () := by
  intro r
  have hsame := connected_attempt address port l
  have hr : r = (connect address port).run l := rfl
  rw [hr, run_connect]
  cases ((attempt address port).run l).outcome with
  | error f => simp [hsame]
  | ok error => by_cases herror : error = 0 <;> simp [hsame, herror]

theorem connect_ok_iff (address : Address) (port : Int) (hopen : l.isOpen = true) :
    ((connect address port).run l).outcome = .ok () ↔ l.socket.Connects := by
  rw [outcome_connect_eq address port hopen, Socket.connects_iff]
  cases l.socket.verdict with
  | error f => simp
  | ok error => by_cases herror : error = 0 <;> simp [herror]

/-! ### A connection stays open -/

/-- Whatever the connection is, the action leaves it as open as it was. -/
def StaysOpen {α : Type} (x : Act Effect Link α) (E : Effect → Prop) : Prop :=
  ∀ isOpen, x.Leads (fun l => l.isOpen = isOpen) E fun l => l.isOpen = isOpen

/-- A property of connections on which neither the socket nor the end of the stream bears. -/
structure Framed (P : Link → Prop) : Prop where
  socket : ∀ l s, P l → P { l with socket := s }
  ended : ∀ l, P l → P { l with ended := true }

section Using

variable {P : Link → Prop} (hP : Framed P)
include hP

theorem Framed.leads_of_alike {α : Type} {x : Act Effect Link α} {E : Effect → Prop}
    (h : ∀ l, x.Leads (Alike l) E (Alike l)) : x.Leads P E P := by
  intro l hl
  obtain ⟨⟨s, -, hstate⟩, hevents⟩ := h l l ⟨l.socket, rfl, rfl⟩
  rw [hstate]
  exact ⟨hP.socket l s hl, hevents⟩

theorem Framed.leads_receive (limit : Nat) (isPeek : Bool) :
    (onSocket (Socket.receive limit isPeek)).Leads P Effect.OfTraffic P := by
  intro l hl
  refine ⟨hP.socket l _ hl, fun e he => ?_⟩
  obtain rfl : e = .receive limit isPeek := List.mem_singleton.1 he
  trivial

theorem Framed.leads_read (limit : Option Nat) : (read limit).Leads P Effect.OfTraffic P := by
  unfold read
  refine .read fun t _ => .ite (fun _ => .pure _) fun _ => ?_
  refine .andThen (hP.leads_receive _ false) fun received => ?_
  rcases received with b | _ | f
  · refine .ite (fun _ => ?_) fun _ => .pure _
    exact .andThen (.update hP.ended) fun _ => .pure _
  · exact .pure _
  · cases f with
    | system e =>
      refine .ite (fun _ => ?_) fun _ => .pure _
      exact .andThen (.emit trivial) fun _ => .pure _
    | _ => exact .throw _

theorem Framed.leads_status : status.Leads P Effect.OfTraffic P := by
  unfold status
  refine .read fun t _ => .ite (fun _ => .pure _) fun _ => ?_
  refine .ite (fun _ => .pure _) fun _ => ?_
  refine .ite (fun _ => .pure _) fun _ => ?_
  refine .andThen (hP.leads_receive 1 true) fun received => ?_
  rcases received with b | _ | f
  · refine .ite (fun _ => ?_) fun _ => .pure _
    exact .andThen (.update hP.ended) fun _ => .pure _
  · exact .pure _
  · cases f with
    | system e =>
      refine .ite (fun _ => .pure _) fun _ => ?_
      exact .andThen (.emit trivial) fun _ => .pure _
    | _ => exact .throw _

theorem Framed.leads_write (bytes : Bytes) : (write bytes).Leads P Effect.OfTraffic P :=
  hP.leads_of_alike fun l => Link.leads_write l bytes

theorem Framed.leads_connect (address : Address) (port : Int)
    (hconnected : ∀ l, P l → P { l with connected := true }) :
    (connect address port).Leads P Effect.OfAttempt P :=
  Link.leads_connect address port (hP.leads_of_alike leads_wait) hconnected

end Using

theorem framed_isOpen (isOpen : Bool) : Framed fun l => l.isOpen = isOpen :=
  ⟨fun _ _ hl => hl, fun _ hl => hl⟩

theorem framed_connected (connected : Bool) : Framed fun l => l.connected = connected :=
  ⟨fun _ _ hl => hl, fun _ hl => hl⟩

theorem staysOpen_read (limit : Option Nat) : StaysOpen (read limit) Effect.OfTraffic :=
  fun isOpen => (framed_isOpen isOpen).leads_read limit

theorem staysOpen_status : StaysOpen status Effect.OfTraffic :=
  fun isOpen => (framed_isOpen isOpen).leads_status

theorem staysOpen_write (bytes : Bytes) : StaysOpen (write bytes) Effect.OfTraffic :=
  fun isOpen => (framed_isOpen isOpen).leads_write bytes

theorem staysOpen_connect (address : Address) (port : Int) :
    StaysOpen (connect address port) Effect.OfAttempt :=
  fun isOpen => (framed_isOpen isOpen).leads_connect address port fun _ hl => hl

theorem run_close (l : Link) :
    close.run l = ⟨.ok (), { l with isOpen := false },
      if l.isOpen then [.closing, .closed] else []⟩ := by
  rcases l with ⟨chunk, isOpen, connected, ended, socket⟩
  cases isOpen <;> simp [close, Act.run_bind_eq]

end Link

end Telnet
