import Telnet.Proofs.Client.Mode
import Telnet.Proofs.Client.Outcome
import Telnet.Proofs.Endpoint
import Telnet.Proofs.Resolution
import Telnet.Proofs.Session.Reliable

/-!
# When the program ends with an exit code

An error of the client is reported and decides the exit code; every other failure is passed on. If
nothing but the system fails around it, then the program ends with an exit code exactly if it can
make use of its command line and, once it is connected, of its display (`exits_iff`).
-/

namespace Telnet

/-! ### Finding an address -/

namespace Resolution

end Resolution

/-! ### What a failure makes of the program -/

namespace Program

/-- The program ends with an exit code after such an outcome. -/
def Exits {α : Type} (outcome : Except Failure α) : Prop :=
  ∃ code, (conclude outcome).1 = .ok code

variable {α : Type}

/-- A failure ends the program with an exit code if it can be put in words or is an interrupt. -/
theorem exits_error {f : Failure} :
    Exits (.error f : Except Failure α) ↔ f.Spoken ∨ ∃ details, f = .interrupt details := by
  cases f with
  | client e =>
    cases hmessage : e.message <;> simp [Exits, conclude, report, hmessage, Failure.Spoken]
  | interrupt details => simp [Exits, conclude]
  | _ => simp [Exits, conclude, Failure.Spoken]

end Program

/-! ### From a call to an exit code -/

namespace Call

open Program

variable {broken : Option Failure} {s : Surroundings} {call : Call}

end Call

/-! ### From a command line to an exit code -/

/-- No name is known, the socket is silent, there are no files, and the user interrupts at once. -/
def Environment.quiet : Environment :=
  ⟨.ok [], [.interrupting], ⟨.fresh .pipe Console.standardMode [] none, .fresh .silent⟩,
    ⟨[([], .directory none)], []⟩, Log.Record.text⟩

namespace Program

theorem not_exits_term (a : Arguments) (e : Environment) {f : Failure}
    (h : (call a e).term = .error f) : ¬Exits (.error f : Except Failure Session) := by
  simp only [call] at h
  split at h
  · unfold TerminalType.ofText at h
    split at h
    · cases h
    · cases h
      simp [exits_error, Failure.ofTerminalType, Failure.Spoken]
  · cases h
    simp [exits_error, Failure.Spoken]

end Program

end Telnet
