import Telnet.Proofs.Client.Outcome
import Telnet.Proofs.Session.Cancelling
import Telnet.Proofs.Session.Reliable

/-!
# What a session fails with

If what is scripted raises exceptions only, then so does a session: it is neither interrupted nor
does it wait for something that never comes (`exception_course`). An attempt to connect that never
ends is no exception to this as long as the time for it is limited.
-/

namespace Telnet

/-- The sides keep `P` and fail with `F` only. -/
structure Sides.Fails {ω : Type} [Sides ω] (P : ω → Prop) (F : Failure → Prop) : Prop where
  interrupt : (Sides.interrupt : Act Effect ω Unit).Ends P F P
  readLine : (Sides.readLine : Act Effect ω Bytes).Ends P F P
  setEcho : ∀ enabled, (Sides.setEcho enabled : Act Effect ω Unit).Ends P F P
  display : ∀ bytes, (Sides.display bytes : Act Effect ω Unit).Ends P F P
  read : ∀ limit, (Sides.read limit : Act Effect ω (Option Bytes)).Ends P F P
  write : ∀ bytes, (Sides.write bytes : Act Effect ω Unit).Ends P F P
  status : (Sides.status : Act Effect ω (Option Status)).Ends P F P
  sleep : ∀ seconds, (Sides.sleep seconds : Act Effect ω Unit).Ends P F P

/-- The sides raise exceptions only: as a connection is opened, where they have `fresh`; as it is
connected, where an attempt may also never end if the time for it is limited; and as it is used. -/
structure Sides.Raises {ω : Type} [Sides ω] (limit : Limit) (fresh opened connected : ω → Prop) :
    Prop where
  openFor : ∀ family,
    (Sides.openFor family : Act Effect ω Unit).Ends fresh Failure.IsException opened
  connect : ∀ address port, (Sides.connect address port : Act Effect ω Unit).Ends opened
    (fun f => f.IsException ∨ f = .stalled ∧ (limit.check = .ok () → limit.isReached = true))
    connected
  session : Sides.Fails connected Failure.IsException

namespace Pump

/-! ### The run -/

section

variable {ω : Type} [Sides ω] {P : ω → Prop} {F : Failure → Prop}

theorem ending_of_fails (h : Sides.Fails P F) :
    Ending (SidesHold P) (SidesHold P) (SidesHold P) F := by
  have hask : ∀ {α : Type} {x : Act Effect ω α} (r : Request), x.Ends P F P →
      (ask r x).Ends (SidesHold P) F (SidesHold P) :=
    fun r hx => ends_ask r hx (fun _ hp => hp) fun _ _ _ hs => hs
  constructor
  case held => exact fun p hp => hp
  case live => exact fun p hp _ => hp
  case ended => exact fun p hp _ => hp
  case polls => exact fun p rest hp => hp
  case engine => exact fun p e hp => hp
  case interrupt => exact hask _ h.interrupt
  case readLine => exact hask _ h.readLine
  case setEcho => exact fun enabled => hask _ (h.setEcho enabled)
  case display => exact fun bytes => hask _ (h.display bytes)
  case read => exact fun limit => hask _ (h.read limit)
  case write => exact fun bytes => hask _ (h.write bytes)
  case status => exact hask _ h.status
  case sleep => exact ends_onSides (h.sleep _) (fun _ hp => hp) fun _ _ _ hs => hs
  case farewell =>
    intro bytes _
    apply Act.Ends.bind (hask _ (h.display bytes))
    intro _ p hp
    exact ⟨hp, hp⟩

theorem fails_run (h : Sides.Fails P F) {p : Pump ω} (hsides : P p.sides)
    (hpolls : ∀ poll ∈ p.polls, ∀ f, poll.ready = .error f → F f) {f : Failure}
    (hf : (run.run p).outcome = .error f) : F f := by
  rcases (ending_of_fails h).ends_run hsides hpolls with ⟨_, hok, -⟩ | ⟨g, herror, hg⟩
  · rw [hf] at hok
    cases hok
  · rw [hf] at herror
    exact Except.error.inj herror ▸ hg

/-! ### From entering to leaving -/

theorem exception_reported {limit : Limit} {address : Address} {port : Int} {f : Failure}
    (h : f.IsException) : (reported limit address port f).IsException := by
  cases f with
  | interrupt details | stalled => exact h.elim
  | system e => trivial
  | _ => exact h

theorem exception_check {limit : Limit} {f : Failure} (h : limit.check = .error f) :
    f.IsException := by
  unfold Limit.check at h
  split at h <;> cases h <;> trivial

variable {p : Pump ω} {f : Failure} {limit : Limit} {fresh opened connected : ω → Prop}

theorem exception_attempted (h : Sides.Raises p.limit fresh opened connected)
    (hopened : opened p.opened.state) (hf : p.attempted.outcome = .error f) :
    (reported p.limit p.session.address p.session.port f).IsException := by
  rw [attempted, tryConnect, Act.run_bind_eq] at hf
  cases hlimit : p.limit.check with
  | error g =>
    rw [hlimit] at hf
    obtain rfl : g = f := Except.error.inj hf
    exact exception_reported (exception_check hlimit)
  | ok =>
    rw [hlimit] at hf
    have hconnect : ((Sides.connect p.session.address p.session.port).run
        p.opened.state).outcome = .error f := hf
    have hends := h.connect p.session.address p.session.port _ hopened
    rw [hconnect] at hends
    rcases hends with hexception | ⟨rfl, hreached⟩
    · exact exception_reported hexception
    · rw [reported, if_pos (hreached hlimit)]
      trivial

theorem exception_course (h : Sides.Raises p.limit fresh opened connected) (hfresh : fresh p.sides)
    (hpolls : ∀ poll ∈ p.polls, ∀ f, poll.ready = .error f → f.IsException)
    (hf : p.course = .error f) : f.IsException := by
  have hopen := h.openFor p.session.address.family p.sides hfresh
  rcases course_error_iff.1 hf with hrefused | ⟨hopened, g, hg, rfl⟩ | ⟨hconnect, hrun⟩
  · have hopened : ((Sides.openFor p.session.address.family).run p.sides).outcome = .error f :=
      hrefused
    rw [hopened] at hopen
    exact hopen
  · have hok : ((Sides.openFor p.session.address.family).run p.sides).outcome = .ok () := hopened
    rw [hok] at hopen
    exact exception_attempted h hopen hg
  · obtain ⟨hopened, hc⟩ := of_connect hconnect
    have hok : ((Sides.openFor p.session.address.family).run p.sides).outcome = .ok () := hopened
    rw [hok] at hopen
    obtain ⟨hconnects, hsides⟩ := of_attempted hc
    have hconnected := h.connect p.session.address p.session.port _ hopen
    change ((Sides.connect p.session.address p.session.port).run
      ((Sides.openFor p.session.address.family).run p.sides).state).outcome = .ok () at hconnects
    rw [hconnects] at hconnected
    obtain ⟨-, hstate, -⟩ := run_connect_ok p hopened hc
    refine fails_run h.session ?_ ?_ hrun
    · rw [hstate]
      exact hsides ▸ hconnected
    · rw [hstate]
      show ∀ poll ∈ p.attempted.state.polls, _
      rw [p.polls_attempted]
      exact hpolls

end

end Pump

/-! ### A console and a network -/

structure Socket.Raises (s : Socket) : Prop where
  arrivals : ∀ f, .failed f ∈ s.arrivals → f.IsException
  acceptances : ∀ f, .failed f ∈ s.acceptances → f.IsException
  waits : ∀ f, some f ∈ s.waits → f.IsException

/-- The socket raises exceptions only, and waiting for it ends. -/
def Socket.Responds (s : Socket) : Prop := s.hangs = false ∧ s.Raises

theorem Socket.allows_responds : Socket.Allows Socket.Responds Failure.IsException where
  hangs _ hs := hs.1
  waits s outcome rest hs hwaits := by
    have hraises := hs.2.waits
    rw [hwaits] at hraises
    have hrest : ∀ f, some f ∈ rest → f.IsException :=
      fun f hf => hraises f (List.mem_cons_of_mem outcome hf)
    refine ⟨⟨hs.1, { hs.2 with waits := hrest }⟩, ?_⟩
    rintro f rfl
    exact hraises f List.mem_cons_self
  arrivals _ _ hs hrest :=
    ⟨hs.1, { hs.2 with arrivals := fun f hf => hs.2.arrivals f (hrest f hf) }⟩
  arrival _ f hs := hs.2.arrivals f
  acceptances _ _ hs hrest := ⟨hs.1, { hs.2 with acceptances := hrest }⟩
  acceptance _ f hs := hs.2.acceptances f

namespace Console

def Raises (c : Console) : Prop := ∀ f, c.displayFailure = some f → f.IsException

theorem exception_switchEcho {mode : Mode} {enabled : Bool} {f : Failure}
    (h : switchEcho mode enabled = .error f) : f.IsException := by
  unfold switchEcho at h
  split at h
  · cases h
    trivial
  · split at h
    · cases h
    · cases h
      trivial

theorem fails_setEcho (enabled : Bool) :
    (setEcho enabled).Ends Raises Failure.IsException Raises := by
  unfold setEcho note
  apply Act.Ends.bind .emit
  intro _
  apply Act.Ends.bind (M := Raises)
  · exact .update fun _ hc => hc
  intro _
  apply Act.Ends.read
  intro t ht
  apply Act.Ends.ite
  · intro _
    apply Act.Ends.bind (.ofExcept fun f => exception_switchEcho)
    intro mode
    exact .bind .emit fun _ => .set ht
  · intro _
    exact .pure _

theorem fails_readLine : readLine.Ends Raises Failure.IsException Raises := by
  intro c hc
  have hsame : (readLine.run c).state.displayFailure = c.displayFailure :=
    (leads_readLine (c := c) c (.refl c)).1.displayFailure
  rw [(readLine_spec c).1]
  intro f hf
  exact hc f (hsame ▸ hf)

theorem fails_display (bytes : Bytes) : (display bytes).Ends Raises Failure.IsException Raises := by
  unfold display
  apply Act.Ends.ite
  · intro _
    apply Act.Ends.read
    intro t ht
    cases hbroken : t.displayFailure with
    | some f => exact .throw (ht f hbroken)
    | none => exact .bind .emit fun _ => .emit
  · intro _
    exact .pure _

end Console

namespace Surroundings

def Raises (s : Surroundings) : Prop :=
  s.console.Raises ∧ ∀ link, s.network.link = some link → link.socket.Responds

theorem fails_onConsole {α : Type} {x : Act Effect Console α}
    (hx : x.Ends Console.Raises Failure.IsException Console.Raises) :
    (onConsole x).Ends Raises Failure.IsException Raises :=
  .on hx (fun _ hs => hs.1) fun _ _ hs hc => ⟨hc, hs.2⟩

theorem fails_onLink {α : Type} {x : Act Effect Link α}
    (hx : x.Ends (fun l => l.socket.Responds) (Link.Heard Failure.IsException)
      fun l => l.socket.Responds) :
    (onLink x).Ends Raises Failure.IsException Raises := by
  rintro s ⟨hconsole, hlinks⟩
  cases hlink : s.network.link with
  | none =>
    have hrun : ((onLink x).run s).outcome = .error .absentPart := by
      simp [onLink, onNetwork, Network.onLink, Act.run_bind_eq, hlink]
    rw [hrun]
    trivial
  | some link =>
    have hends := hx link (hlinks link hlink)
    rw [run_onLink x hlink]
    cases hout : (x.run link).outcome with
    | ok a =>
      rw [hout] at hends
      refine ⟨hconsole, fun link' hlink' => ?_⟩
      cases hlink'
      exact hends
    | error f =>
      rw [hout] at hends
      exact hends.1

theorem fails : Sides.Fails Raises Failure.IsException where
  interrupt := .update fun _ hs => hs
  readLine := fails_onConsole Console.fails_readLine
  setEcho enabled := fails_onConsole (Console.fails_setEcho enabled)
  display bytes := fails_onConsole (Console.fails_display bytes)
  read limit := fails_onLink (Link.ends_read_of Socket.allows_responds (some limit))
  write bytes := fails_onLink (Link.ends_write_of Socket.allows_responds bytes)
  status := fails_onLink (Link.ends_status_of Socket.allows_responds)
  sleep _ := .emit

end Surroundings

/-! ### Connecting -/

namespace Link

theorem exception_explanation {error : Int} {f : Failure}
    (h : Failure.explanation error = .error f) : f.IsException := by
  unfold Failure.explanation at h
  split at h
  · cases h
  · cases h
    trivial

theorem exception_refusal (address : Address) (port error : Int) :
    (refusal address port error).IsException := by
  unfold refusal
  cases hreason : Failure.explanation error with
  | ok reason => trivial
  | error f => exact exception_explanation hreason

/-- To connect raises an exception if anything, or waits for ever if the socket hangs. -/
theorem exception_connect {l : Link} {address : Address} {port : Int} (hopen : l.isOpen = true)
    (hraises : l.socket.Raises) {f : Failure}
    (hf : ((connect address port).run l).outcome = .error f) :
    f.IsException ∨ f = .stalled ∧ l.socket.hangs = true := by
  rw [outcome_connect_eq address port hopen] at hf
  cases hverdict : l.socket.verdict with
  | ok error =>
    rw [hverdict] at hf
    by_cases herror : error = 0
    · simp [herror] at hf
    · simp only [if_neg herror] at hf
      obtain rfl := Except.error.inj hf
      exact .inl (exception_refusal address port error)
  | error g =>
    rw [hverdict] at hf
    obtain rfl : g = f := Except.error.inj hf
    obtain ⟨-, hwait⟩ := Socket.verdict_error_iff.1 hverdict
    cases hhangs : l.socket.hangs with
    | true =>
      rw [Socket.outcome_waitWritable_hangs hhangs] at hwait
      exact .inr ⟨(Except.error.inj hwait).symm, rfl⟩
    | false =>
      have hends := Socket.allows_responds.ends_waitWritable l.socket ⟨hhangs, hraises⟩
      rw [hwait] at hends
      exact .inl hends

theorem responds_connect {l : Link} (address : Address) (port : Int) (h : l.socket.Responds) :
    ((connect address port).run l).state.socket.Responds := by
  have hwait : (onSocket Socket.waitWritable).Leads (fun l => l.socket.Responds) Effect.OfAttempt
      fun l => l.socket.Responds :=
    .on (leads_waitWritable trivial fun s outcome rest hs hwaits =>
      (Socket.allows_responds.waits s outcome rest hs hwaits).1) (fun _ hl => hl) fun _ _ _ hs => hs
  exact (leads_connect address port hwait (fun _ hl => hl) l h).1

end Link

/-- The socket raises exceptions only. If waiting for it never ends, then it is waited for as it
connects, and the time for that is limited. -/
structure Socket.Timely (limit : Limit) (s : Socket) : Prop where
  raises : s.Raises
  hangs : s.hangs = true → s.connectResult ∈ inProgress
  limit : s.hangs = true → limit.check = .ok () → limit.isReached = true

namespace Surroundings

/-- What is scripted for a session raises exceptions only, and what it waits for comes in time. -/
structure Orderly (limit : Limit) (s : Surroundings) : Prop where
  console : s.console.Raises
  openFailure : ∀ f, s.network.nextSocket.openFailure = some f → f.IsException
  socket : s.network.nextSocket.Timely limit

/-- The same of a connection that is opened and not connected yet. -/
def Opened (limit : Limit) (s : Surroundings) : Prop :=
  s.console.Raises ∧
    ∃ link, s.network.link = some link ∧ link.isOpen = true ∧ link.socket.Timely limit

theorem exception_unopened {f : Failure} (h : f.IsException) : (unopened f).IsException := by
  cases f with
  | system e => trivial
  | _ => exact h

theorem raises (limit : Limit) : Sides.Raises limit (Orderly limit) (Opened limit) Raises where
  openFor family s hs := by
    rw [run_openFor]
    cases hopen : s.network.nextSocket.openFailure with
    | none => exact ⟨hs.console, _, rfl, rfl, hs.socket⟩
    | some f => exact exception_unopened (hs.openFailure f hopen)
  connect address port s hs := by
    obtain ⟨hconsole, link, hlink, hopen, htimely⟩ := hs
    have hconnect : (Sides.connect address port).run s = _ :=
      run_onLink (Link.connect address port) hlink
    rw [hconnect]
    cases hout : ((Link.connect address port).run link).outcome with
    | ok =>
      have hconnects := (Link.connect_ok_iff address port hopen).1 hout
      have hresponds : link.socket.Responds := ⟨hconnects.hangs htimely.hangs, htimely.raises⟩
      refine ⟨hconsole, fun link' hlink' => ?_⟩
      cases hlink'
      exact Link.responds_connect address port hresponds
    | error f =>
      rcases Link.exception_connect hopen htimely.raises hout with hexception | ⟨rfl, hhangs⟩
      · exact .inl hexception
      · exact .inr ⟨rfl, htimely.limit hhangs⟩
  session := fails

end Surroundings

end Telnet
