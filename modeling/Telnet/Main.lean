import Telnet.Program

/-!
# The command

Runs the program on the command line it is given. No sockets can be opened here, so that every
attempt to connect is refused by the system; help, faults of the command line and faults of an
address are reported as they are.
-/

namespace Telnet

/-- The failure of a call that the system does not have. -/
def notImplemented : Failure := .system (.raised .general [.number 38, .text (errorText 38)])

/-- Surroundings without a network and without a terminal. -/
def isolated : Environment where
  names := .error notImplemented
  polls := []
  surroundings :=
    ⟨.fresh .pipe Console.standardMode [] none,
      .fresh { Socket.silent with openFailure := some notImplemented }⟩
  files := ⟨[([], .directory none)], []⟩
  complaint r := "--- Logging error ---\n" ++ r.text ++ "\n"

end Telnet

/-- Prints what the program prints and returns its exit code. -/
def main (arguments : List String) : IO UInt32 := do
  let ended := Telnet.Program.run arguments Telnet.isolated
  (← IO.getStdout).write (ByteArray.mk ended.output.toArray)
  IO.eprint ended.errors
  match ended.exit with
  | .ok code => return UInt32.ofNat code.number
  | .error f => do
    IO.eprintln ((f.message?).getD "failed")
    return 1
