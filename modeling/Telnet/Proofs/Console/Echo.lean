import Mathlib.Data.Int.Bitwise
import Telnet.Proofs.Console.Restoring

/-!
# Switching the echo of a terminal

The local flags of a terminal are one of the seven items of its mode, and the echo is one of their
bits. To switch the echo sets that bit and leaves the others and the other items alone
(`testBit_withEcho`, `foldl_echoing`).
-/

namespace Telnet

/-- The place of the echo among the local flags. -/
def echoBit : Nat := 3

theorem withEcho_bit (b₀ b₁ b₂ b₃ : Bool) (high : Int) (enabled : Bool) :
    withEcho (Int.bit b₀ (Int.bit b₁ (Int.bit b₂ (Int.bit b₃ high)))) enabled =
      Int.bit b₀ (Int.bit b₁ (Int.bit b₂ (Int.bit enabled high))) := by
  simp only [withEcho, echoFlag, Int.bit_val]
  cases b₀ <;> cases b₁ <;> cases b₂ <;> cases b₃ <;> cases enabled <;>
    simp only [cond_true, cond_false, decide_eq_true_eq, decide_eq_false_iff_not,
      Bool.false_eq_true, if_true, if_false] <;> split <;> omega

theorem testBit_withEcho (flags : Int) (enabled : Bool) (b : Nat) :
    (withEcho flags enabled).testBit b = if b = echoBit then enabled else flags.testBit b := by
  -- Only the four lowest bits matter: the echo is the highest of them.
  have hflags : flags = Int.bit flags.bodd (Int.bit flags.div2.bodd (Int.bit flags.div2.div2.bodd
      (Int.bit flags.div2.div2.div2.bodd flags.div2.div2.div2.div2))) := by
    simp only [Int.bit_decomp]
  rw [hflags, withEcho_bit]
  rcases b with _ | _ | _ | _ | b
  · simp only [Int.testBit_bit_zero, echoBit]
    rfl
  · simp only [Int.testBit_bit_zero, Int.testBit_bit_succ, echoBit]
    rfl
  · simp only [Int.testBit_bit_zero, Int.testBit_bit_succ, echoBit]
    rfl
  · simp only [Int.testBit_bit_zero, Int.testBit_bit_succ, echoBit]
    rfl
  · have hother : b + 4 ≠ echoBit := by
      unfold echoBit
      omega
    rw [if_neg hother]
    simp only [Int.testBit_bit_succ]

structure OtherItems where
  iflag : ModeItem
  oflag : ModeItem
  cflag : ModeItem
  ispeed : ModeItem
  ospeed : ModeItem
  characters : ModeItem
  deriving DecidableEq, Repr

def OtherItems.mode (others : OtherItems) (flags : Int) : Mode :=
  [others.iflag, others.oflag, others.cflag, .number flags, others.ispeed, others.ospeed,
    others.characters]

theorem OtherItems.length_mode (others : OtherItems) (flags : Int) :
    (others.mode flags).length = modeLength := rfl

namespace Console

theorem switchEcho_mode (others : OtherItems) (flags : Int) (enabled : Bool) :
    switchEcho (others.mode flags) enabled = .ok (others.mode (withEcho flags enabled)) := rfl

def echoing (c : Console) (enabled : Bool) : Console := ((setEcho enabled).run c).state

variable {others : OtherItems} {flags : Int} {c : Console}

theorem run_setEcho (hmode : c.mode = others.mode flags) (enabled : Bool) :
    ((setEcho enabled).run c).outcome = .ok () ∧
      c.echoing enabled = { c with
        echo := enabled
        mode := if c.kind = .terminal then others.mode (withEcho flags enabled) else c.mode } := by
  have hswitch := switchEcho_mode others flags enabled
  rcases c with ⟨kind, mode, input, failure, saved, echo, endOfText, endOfTransmission⟩
  obtain rfl : mode = others.mode flags := hmode
  cases kind <;> simp [echoing, setEcho, note, Act.run_bind_eq, hswitch]

theorem mode_echoing (hmode : c.mode = others.mode flags) (enabled : Bool) :
    ∃ flags', (c.echoing enabled).mode = others.mode flags' := by
  rw [(run_setEcho hmode enabled).2]
  by_cases hkind : c.kind = .terminal
  · exact ⟨withEcho flags enabled, if_pos hkind⟩
  · exact ⟨flags, (if_neg hkind).trans hmode⟩

/-! ### Many switches -/

/-- Of a terminal the flag of the echo is what the echo is. -/
def Reflects (c : Console) (flags : Int) : Prop :=
  c.kind = .terminal → flags.testBit echoBit = c.echo

theorem reflects_echoing (hmode : c.mode = others.mode flags) (enabled : Bool) :
    ∃ flags', (c.echoing enabled).mode = others.mode flags' ∧
      (c.echoing enabled).Reflects flags' ∧
      ∀ b, b ≠ echoBit → flags'.testBit b = flags.testBit b := by
  obtain ⟨-, hstate⟩ := run_setEcho hmode enabled
  rw [hstate]
  by_cases hkind : c.kind = .terminal
  · refine ⟨withEcho flags enabled, if_pos hkind, fun _ => ?_, fun b hb => ?_⟩
    · rw [testBit_withEcho, if_pos rfl]
    · rw [testBit_withEcho, if_neg hb]
  · refine ⟨flags, (if_neg hkind).trans hmode, fun h => absurd h hkind, fun b _ => rfl⟩

theorem foldl_echoing_frame (hmode : c.mode = others.mode flags) (calls : List Bool) :
    (calls.foldl echoing c).kind = c.kind ∧
      (calls.foldl echoing c).echo = calls.getLastD c.echo := by
  induction calls generalizing c flags with
  | nil => exact ⟨rfl, rfl⟩
  | cons enabled calls ih =>
    obtain ⟨flags', hmode'⟩ := mode_echoing hmode enabled
    obtain ⟨hkind, hecho⟩ := ih hmode'
    have hstate := (run_setEcho hmode enabled).2
    rw [List.foldl_cons, hkind, hecho, List.getLastD_cons, hstate]
    exact ⟨rfl, rfl⟩

/-- Whatever switches are made, the mode is the same but for the echo, and after the last of them
the flag of the echo is what the echo is. -/
theorem foldl_echoing (hmode : c.mode = others.mode flags) (calls : List Bool) :
    ∃ flags', (calls.foldl echoing c).mode = others.mode flags' ∧
      (calls ≠ [] ∨ c.Reflects flags → (calls.foldl echoing c).Reflects flags') ∧
      ∀ b, b ≠ echoBit → flags'.testBit b = flags.testBit b := by
  induction calls generalizing c flags with
  | nil =>
    refine ⟨flags, hmode, fun h => ?_, fun b _ => rfl⟩
    rcases h with hnil | hreflects
    · exact absurd rfl hnil
    · exact hreflects
  | cons enabled calls ih =>
    obtain ⟨flags₁, hmode₁, hreflects₁, hother₁⟩ := reflects_echoing hmode enabled
    obtain ⟨flags₂, hmode₂, hreflects₂, hother₂⟩ := ih hmode₁
    refine ⟨flags₂, hmode₂, fun _ => hreflects₂ (.inr hreflects₁), fun b hb => ?_⟩
    rw [hother₂ b hb, hother₁ b hb]

end Console

end Telnet
