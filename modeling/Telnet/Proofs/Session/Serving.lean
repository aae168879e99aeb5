import Telnet.Proofs.Connection.Stream
import Telnet.Proofs.Console.Use
import Telnet.Session.Surroundings

/-!
# A console and a network that serve a session

While a session lasts the display works, the connection is in use, and only a read takes something
from the stream behind it.
-/

namespace Telnet

namespace Surroundings

/-- The display works, and the connection has still to hand out `rest`. -/
def Serving (rest : Bytes) (s : Surroundings) : Prop :=
  s.console.displayFailure = none ∧
    ∃ l, s.network.link = some l ∧ l.Sound ∧ l.unread = rest

def LooksBroken (s : Surroundings) : Prop := ∃ l, s.network.link = some l ∧ l.LooksBroken

variable {rest : Bytes} {s : Surroundings} {l : Link}

theorem run_onLink {α : Type} (x : Act Effect Link α) (h : s.network.link = some l) :
    (onLink x).run s =
      ⟨(x.run l).outcome,
        { s with network := { s.network with link := some (x.run l).state } },
        (x.run l).events⟩ := by
  simp [onLink, onNetwork, Network.onLink, Act.run_bind_eq, h]

theorem leads_onConsole {α : Type} {x : Act Effect Console α}
    (h : ∀ c : Console, x.Leads c.Alike (Effect.OfConsole c.kind) c.Alike) :
    (onConsole x).Leads (Serving rest) (fun _ => True) (Serving rest) := by
  rintro s ⟨hdisplay, hlink⟩
  obtain ⟨halike, -⟩ := h s.console s.console (.refl _)
  exact ⟨⟨halike.displayFailure.trans hdisplay, hlink⟩, fun _ _ => trivial⟩

theorem leads_interrupt :
    (Sides.interrupt : Act Effect Surroundings Unit).Leads (Serving rest) (fun _ => True)
      (Serving rest) :=
  .update fun _ hs => hs

theorem leads_readLine :
    (Sides.readLine : Act Effect Surroundings Bytes).Leads (Serving rest) (fun _ => True)
      (Serving rest) :=
  leads_onConsole fun _ => Console.leads_readLine

theorem leads_setEcho (enabled : Bool) :
    (Sides.setEcho enabled : Act Effect Surroundings Unit).Leads (Serving rest) (fun _ => True)
      (Serving rest) :=
  leads_onConsole fun _ => Console.leads_setEcho enabled

theorem leads_write (bytes : Bytes) :
    (Sides.write bytes : Act Effect Surroundings Unit).Leads (Serving rest) (fun _ => True)
      (Serving rest) := by
  rintro s ⟨hdisplay, l, hlink, hsound, hunread⟩
  obtain ⟨halike, -⟩ := Link.leads_write l bytes l ⟨l.socket, rfl, rfl⟩
  obtain ⟨hsound', hunread'⟩ := hsound.of_alike halike
  refine ⟨?_, fun _ _ => trivial⟩
  show Serving rest ((onLink (Link.write bytes)).run s).state
  rw [run_onLink _ hlink]
  exact ⟨hdisplay, _, rfl, hsound', hunread'.trans hunread⟩

@[simp] theorem state_display (bytes : Bytes) (s : Surroundings) :
    ((Sides.display bytes).run s).state = s := by
  show { s with console := ((Console.display bytes).run s.console).state } = s
  rw [Console.state_display]

theorem state_openFor {family : Family}
    (h : ((Sides.openFor family).run s).outcome = .ok ()) :
    ((Sides.openFor family).run s).state =
      { s with network := { s.network with
        link := some (.fresh standardChunk s.network.nextSocket) } } := by
  change ((onNetwork (Network.openLink family standardChunk)).run s).outcome = .ok () at h
  show ((onNetwork (Network.openLink family standardChunk)).run s).state = _
  cases hopen : s.network.nextSocket.openFailure with
  | none => simp [onNetwork, Network.openLink, Link.openOver, Act.run_bind_eq, hopen]
  | some f =>
    cases f <;> simp [onNetwork, Network.openLink, Link.openOver, Act.run_bind_eq, hopen] at h

end Surroundings

end Telnet
