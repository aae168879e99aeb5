import Telnet.Proofs.Connection.Use
import Telnet.Proofs.Console.Use
import Telnet.Proofs.Session.Invariant
import Telnet.Session.Surroundings

/-!
# What a session leaves alone

A session uses a console and a connection, so that it keeps what both of them keep: what is to be
restored of the console, and whether the connection is open (`keeps_alike`). To open, to connect and
to close a connection leaves the console as it is.
-/

namespace Telnet

/-- What the two sides of a connected session do. -/
def Effect.OfSession (kind : InputKind) (e : Effect) : Prop :=
  e.OfConsole kind ∨ e.OfTraffic ∨ (∃ seconds, e = .poll seconds) ∨ ∃ seconds, e = .sleep seconds

/-- What is done to open a connection, to connect it and to close it. -/
def Effect.OfScope (e : Effect) : Prop :=
  e.OfOpening ∨ e.OfAttempt ∨ e = .closing ∨ e = .closed

namespace Network

/-- It only matters whether there is a connection and whether it is open. -/
def Coarse (P : Network → Prop) : Prop :=
  ∀ n link link', P n → n.link = some link → link'.isOpen = link.isOpen →
    P { n with link := some link' }

variable {P : Network → Prop} {E : Effect → Prop}

theorem leads_onLink {α : Type} {x : Act Effect Link α}
    (hevents : ∀ link, ∀ e ∈ (x.run link).events, E e)
    (hP : ∀ n link, P n → n.link = some link → P { n with link := some (x.run link).state }) :
    (onLink x).Leads P E P := by
  intro n hn
  cases hlink : n.link with
  | none =>
    have hr : (onLink x).run n = ⟨.error .absentPart, n, []⟩ := by
      simp [onLink, Act.run_bind_eq, hlink]
    rw [hr]
    exact ⟨hn, fun e he => by cases he⟩
  | some link =>
    have hr : (onLink x).run n = ⟨(x.run link).outcome,
        { n with link := some (x.run link).state }, (x.run link).events⟩ := by
      simp [onLink, Act.run_bind_eq, hlink]
    rw [hr]
    exact ⟨hP n link hn hlink, hevents link⟩

theorem leads_staysOpen {α : Type} {x : Act Effect Link α} (hx : Link.StaysOpen x E)
    (hP : Coarse P) : (onLink x).Leads P E P :=
  leads_onLink (fun link => (hx link.isOpen link rfl).2) fun n link hn hlink =>
    hP n link _ hn hlink (hx link.isOpen link rfl).1

end Network

namespace Surroundings

variable {c : Console} {P : Network → Prop}

/-- The console is like a given one, and the network has `P`. -/
def Alike (c : Console) (P : Network → Prop) (s : Surroundings) : Prop :=
  c.Alike s.console ∧ P s.network

theorem leads_console {α : Type} {x : Act Effect Console α}
    (hx : x.Leads c.Alike (Effect.OfConsole c.kind) c.Alike) :
    (onConsole x).Leads (Alike c P) (Effect.OfSession c.kind) (Alike c P) := by
  have hallowed : x.Leads c.Alike (Effect.OfSession c.kind) c.Alike := hx.allow fun _ he => .inl he
  exact .on hallowed (fun _ hs => hs.1) fun _ _ hs ht => ⟨ht, hs.2⟩

theorem leads_network {α : Type} {x : Act Effect Link α} {E : Effect → Prop}
    (hx : Link.StaysOpen x E) (hP : Network.Coarse P) :
    (onLink x).Leads (Alike c P) E (Alike c P) :=
  .on (Network.leads_staysOpen hx hP) (fun _ hs => hs.2) fun _ _ hs ht => ⟨hs.1, ht⟩

theorem leads_link {α : Type} {x : Act Effect Link α} (hx : Link.StaysOpen x Effect.OfTraffic)
    (hP : Network.Coarse P) :
    (onLink x).Leads (Alike c P) (Effect.OfSession c.kind) (Alike c P) :=
  (leads_network hx hP).allow fun _ he => .inr (.inl he)

theorem keeps_alike (hP : Network.Coarse P) :
    Sides.Keeps (Alike c P) (Effect.OfSession c.kind) where
  waited := .inr (.inr (.inl ⟨_, rfl⟩))
  logged _ := .inl trivial
  interrupt := .update fun _ hs => ⟨⟨hs.1.1, hs.1.2, hs.1.3⟩, hs.2⟩
  readLine := leads_console Console.leads_readLine
  setEcho enabled := leads_console (Console.leads_setEcho enabled)
  display bytes := leads_console (Console.leads_display bytes)
  read _ := leads_link (Link.staysOpen_read _) hP
  write bytes := leads_link (Link.staysOpen_write bytes) hP
  status := leads_link Link.staysOpen_status hP
  sleep _ := .emit (.inr (.inr (.inr ⟨_, rfl⟩)))

/-! ### Opening, connecting and closing -/

/-- The failure that is raised because a socket cannot be made. -/
def unopened : Failure → Failure
  | .system e => .client (.device [e.reason])
  | f => f

theorem run_openFor (family : Family) (s : Surroundings) :
    (Sides.openFor family).run s = match s.network.nextSocket.openFailure with
      | none => ⟨.ok (), { s with network := { s.network with
          link := some (.fresh standardChunk s.network.nextSocket) } }, [.created family, .unblocked]⟩
      | some f => ⟨.error (unopened f), s, [.created family]⟩ := by
  have hrun : (Sides.openFor family).run s =
      (onNetwork (Network.openLink family standardChunk)).run s := rfl
  rw [hrun]
  cases hopen : s.network.nextSocket.openFailure with
  | none => simp [onNetwork, Network.openLink, Link.openOver, Act.run_bind_eq, hopen]
  | some f =>
    cases f <;>
      simp [onNetwork, Network.openLink, Link.openOver, Act.run_bind_eq, hopen, unopened]

section

variable {P : Surroundings → Prop} (hP : ∀ s n, P s → P { s with network := n })
include hP

theorem leads_onNetwork {α : Type} {x : Act Effect Network α} {E : Effect → Prop}
    (hx : x.Leads (fun _ => True) E fun _ => True) : (onNetwork x).Leads P E P :=
  .on hx (fun _ _ => trivial) fun s n hs _ => hP s n hs

theorem leads_openFor (family : Family) :
    (Sides.openFor family : Act Effect Surroundings Unit).Leads P Effect.OfScope P := by
  have hopen : (Network.openLink family standardChunk).Leads (fun _ => True) Effect.OfScope
      fun _ => True := by
    unfold Network.openLink
    refine .read fun n _ => .andThen ?_ fun link => .set trivial
    exact (Link.leads_openOver _ family _).allow fun _ he => .inl he
  exact leads_onNetwork hP hopen

theorem leads_connect (address : Address) (port : Int) :
    (Sides.connect address port : Act Effect Surroundings Unit).Leads P Effect.OfScope P := by
  have hconnect := Network.leads_staysOpen (P := fun _ => True)
    (Link.staysOpen_connect address port) fun _ _ _ _ _ _ => trivial
  exact leads_onNetwork hP (hconnect.allow fun _ he => .inr (.inl he))

theorem leads_close :
    (Sides.close : Act Effect Surroundings Unit).Leads P Effect.OfScope P := by
  have hclose : (Network.onLink Link.close).Leads (fun _ => True) Effect.OfScope
      fun _ => True := by
    refine Network.leads_onLink (fun link e he => ?_) fun _ _ _ _ => trivial
    rw [Link.run_close] at he
    cases hopen : link.isOpen with
    | false => simp [hopen] at he
    | true =>
      have hmem : e = .closing ∨ e = .closed := by simpa [hopen] using he
      exact .inr (.inr hmem)
  exact leads_onNetwork hP hclose

end

end Surroundings

end Telnet
