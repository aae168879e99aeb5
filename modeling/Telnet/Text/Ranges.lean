/-!
# Sets of characters given by ranges

A property of characters is stored as the list of its runs of code points.
-/

namespace Telnet.Text

/-- Runs of code points, each with its first and its last member. -/
abbrev Ranges : Type := List (Nat × Nat)

namespace Ranges

def holds (runs : Ranges) (c : Char) : Bool :=
  runs.any fun run => decide (run.1 ≤ c.toNat) && decide (c.toNat ≤ run.2)

end Ranges

end Telnet.Text
