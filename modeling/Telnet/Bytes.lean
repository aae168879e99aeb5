/-!
# Bytes, lines and line ends

What travels between the keyboard, the display and the remote host is a list of bytes. A line ends
after a line feed and nowhere else; on its way to the remote host each line feed is preceded by a
carriage return.

* `nextLine`, `lines`: the first line and all lines of an input, each with its line feed.
* `networkEnds`: line feed to carriage return and line feed; `localEnds` is the way back.
-/

namespace Telnet

abbrev Bytes : Type := List UInt8

namespace Bytes

def lineFeed : UInt8 := 0x0a

def carriageReturn : UInt8 := 0x0d

/-! ### Lines -/

/-- The bytes up to and including the first line feed, and those after it. Without a line feed the
whole input is the line. -/
def nextLine : Bytes → Bytes × Bytes
  | [] => ([], [])
  | b :: rest =>
    if b = lineFeed then ([b], rest)
    else let (line, after) := nextLine rest; (b :: line, after)

/-- Nothing is lost between a line and what follows it. -/
theorem nextLine_append (bs : Bytes) : (nextLine bs).1 ++ (nextLine bs).2 = bs := by
  induction bs with
  | nil => rfl
  | cons b rest ih =>
    simp only [nextLine]
    split
    · rfl
    · simp [ih]

theorem nextLine_cons_ne_nil (b : UInt8) (bs : Bytes) : (nextLine (b :: bs)).1 ≠ [] := by
  simp only [nextLine]
  split <;> simp

theorem length_nextLine_snd_lt (b : UInt8) (bs : Bytes) :
    (nextLine (b :: bs)).2.length < (b :: bs).length := by
  have hall := congrArg List.length (nextLine_append (b :: bs))
  have hpos := List.length_pos_iff.mpr (nextLine_cons_ne_nil b bs)
  rw [List.length_append] at hall
  omega

/-- All lines of an input, each with its line feed; a last line may lack one. -/
def lines : Bytes → List Bytes
  | [] => []
  | b :: bs => (nextLine (b :: bs)).1 :: lines (nextLine (b :: bs)).2
termination_by bs => bs.length
decreasing_by exact length_nextLine_snd_lt b bs

/-! ### Line ends -/

/-- Every line feed becomes a carriage return and a line feed; no other byte changes. -/
def networkEnds (line : Bytes) : Bytes :=
  line.flatMap fun b => if b = lineFeed then [carriageReturn, lineFeed] else [b]

/-- Every carriage return with a line feed after it is dropped, from left to right. -/
def localEnds : Bytes → Bytes
  | [] => []
  | [b] => [b]
  | b :: c :: rest =>
    if b = carriageReturn ∧ c = lineFeed then c :: localEnds rest
    else b :: localEnds (c :: rest)

theorem networkEnds_append (a b : Bytes) :
    networkEnds (a ++ b) = networkEnds a ++ networkEnds b := by
  simp only [networkEnds, List.flatMap_append]

theorem networkEnds_flatten (lines : List Bytes) :
    (lines.map networkEnds).flatten = networkEnds lines.flatten := by
  induction lines with
  | nil => rfl
  | cons line lines ih =>
    rw [List.map_cons, List.flatten_cons, List.flatten_cons, ih, networkEnds_append]

/-- A byte that no line feed follows stays. -/
theorem localEnds_cons (b : UInt8) (bs : Bytes) (h : bs.head? ≠ some lineFeed) :
    localEnds (b :: bs) = b :: localEnds bs := by
  cases bs with
  | nil => rfl
  | cons c rest =>
    have hc : ¬ (b = carriageReturn ∧ c = lineFeed) := by
      rintro ⟨-, rfl⟩
      exact h rfl
    rw [localEnds, if_neg hc]

theorem head?_networkEnds (bs : Bytes) : (networkEnds bs).head? ≠ some lineFeed := by
  cases bs with
  | nil => simp [networkEnds]
  | cons b bs =>
    by_cases hb : b = lineFeed
    · simp [networkEnds, hb, carriageReturn, lineFeed]
    · simp [networkEnds, hb]

/-- Nothing is lost on the way to the remote host, whatever bytes a line holds. -/
theorem localEnds_networkEnds (bs : Bytes) : localEnds (networkEnds bs) = bs := by
  induction bs with
  | nil => rfl
  | cons b bs ih =>
    by_cases hb : b = lineFeed
    · have hcons : networkEnds (b :: bs) = carriageReturn :: lineFeed :: networkEnds bs := by
        simp [networkEnds, hb]
      rw [hcons, localEnds, if_pos ⟨rfl, rfl⟩, ih, hb]
    · have hcons : networkEnds (b :: bs) = b :: networkEnds bs := by simp [networkEnds, hb]
      rw [hcons, localEnds_cons _ _ (head?_networkEnds bs), ih]

end Bytes

end Telnet
