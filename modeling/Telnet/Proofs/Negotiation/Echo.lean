import Mathlib.Data.List.Chain
import Telnet.Proofs.Negotiation.Stream

/-!
# When the echo is switched

The engine is used in two ways: it reads a chunk, or it answers a proposal that was recognised
elsewhere. Either way it accepts some proposals, one after the other, and it notes a switch of the
local echo for each of them that changes whether the remote host echoes (`switched_use`).
-/

namespace Telnet

namespace Engine

inductive Use where
  | feed (chunk : Bytes)
  | answer (p : Proposal)
  deriving DecidableEq, Repr

def use (e : Engine) : Use → Fed
  | .feed chunk => e.feed chunk
  | .answer p => e.answer p

def Use.answered : Use → List Proposal
  | .feed chunk => (occurrences chunk).map Occurrence.proposal
  | .answer p => [p]

end Engine

/-- Whether the remote host echoes after a proposal, if that was `before` until then. -/
def Proposal.suppresses (before : Bool) : Proposal → Bool
  | .terminalType => before
  | .remoteEcho => true
  | .noRemoteEcho => false

def flips (course : List Bool) : Nat :=
  (course.zip course.tail).countP fun (a, b) => decide (a ≠ b)

theorem flips_cons_cons (a b : Bool) (rest : List Bool) :
    flips (a :: b :: rest) = flips (b :: rest) + if a = b then 0 else 1 := by
  simp only [flips, List.tail_cons, List.zip_cons_cons, List.countP_cons, ne_eq, decide_not,
    Bool.not_eq_true', decide_eq_false_iff_not]
  by_cases h : a = b <;> simp [h]

/-! ### The switches that some proposals make -/

/-- The values that the local echo is switched to while some proposals are answered. -/
def echoSwitches (before : Bool) : List Proposal → List Bool
  | [] => []
  | p :: rest =>
    let after := p.suppresses before
    (if after = before then [] else [!after]) ++ echoSwitches after rest

theorem echoSwitches_append (before : Bool) (ps qs : List Proposal) :
    echoSwitches before (ps ++ qs) =
      echoSwitches before ps ++ echoSwitches (ps.foldl Proposal.suppresses before) qs := by
  induction ps generalizing before with
  | nil => rfl
  | cons p ps ih =>
    simp only [List.cons_append, echoSwitches, List.foldl_cons, ih, List.append_assoc]

theorem isChain_echoSwitches (before : Bool) (ps : List Proposal) :
    ((!before) :: echoSwitches before ps).IsChain (· ≠ ·) := by
  induction ps generalizing before with
  | nil => exact List.isChain_singleton _
  | cons p ps ih =>
    have hrest := ih (p.suppresses before)
    by_cases hsame : p.suppresses before = before
    · rw [echoSwitches, if_pos hsame, List.nil_append, hsame]
      rwa [hsame] at hrest
    · rw [echoSwitches, if_neg hsame, List.singleton_append]
      refine List.isChain_cons_cons.2 ⟨?_, hrest⟩
      intro heq
      exact hsame (Bool.not_inj heq).symm

theorem length_echoSwitches (before : Bool) (ps : List Proposal) :
    (echoSwitches before ps).length = flips (ps.scanl Proposal.suppresses before) := by
  induction ps generalizing before with
  | nil => rfl
  | cons p ps ih =>
    obtain ⟨rest, hrest⟩ : ∃ rest,
        ps.scanl Proposal.suppresses (p.suppresses before) = p.suppresses before :: rest := by
      cases ps with
      | nil => exact ⟨[], rfl⟩
      | cons q ps => exact ⟨_, List.scanl_cons⟩
    have hlen := ih (p.suppresses before)
    rw [List.scanl_cons, hrest, flips_cons_cons, ← hrest, ← hlen]
    by_cases hsame : p.suppresses before = before
    · simp [echoSwitches, hsame]
    · have hother : before ≠ p.suppresses before := fun h => hsame h.symm
      simp [echoSwitches, hsame, hother]

/-- The last switch leaves the local echo on exactly if the remote host does not echo. -/
theorem getLastD_echoSwitches (before : Bool) (ps : List Proposal) :
    (echoSwitches before ps).getLastD (!before) = !ps.foldl Proposal.suppresses before := by
  induction ps generalizing before with
  | nil => rfl
  | cons p ps ih =>
    have hrest := ih (p.suppresses before)
    by_cases hsame : p.suppresses before = before
    · rw [echoSwitches, if_pos hsame, List.nil_append, List.foldl_cons, ← hrest, hsame]
    · rw [echoSwitches, if_neg hsame, List.singleton_append, List.getLastD_cons, List.foldl_cons]
      exact hrest

/-! ### The switches that the engine notes -/

def Note.switch? : Note → Option Bool
  | .echo enabled => some enabled
  | _ => none

def switched (notes : List Note) : List Bool := notes.filterMap Note.switch?

theorem switched_append (a b : List Note) : switched (a ++ b) = switched a ++ switched b := by
  simp only [switched, List.filterMap_append]

namespace Engine

theorem accept_suppressed (e : Engine) (p : Proposal) :
    (e.accept p).1.suppressed = p.suppresses e.suppressed := by
  cases p <;> rfl

theorem switched_accept (e : Engine) (p : Proposal) :
    switched (e.accept p).2 = echoSwitches e.suppressed [p] := by
  rcases e with ⟨term, suppressed⟩
  cases p <;> cases suppressed <;> rfl

theorem switched_feed_other (e : Engine) (b : UInt8) (rest : Bytes)
    (h : Proposal.front? (b :: rest) = none) :
    switched (e.feed (b :: rest)).notes = switched (e.feed rest).notes := by
  rcases rest with _ | ⟨command, _ | ⟨option, rest⟩⟩
  · rfl
  · rfl
  · rw [Proposal.front?] at h
    rw [feed]
    split
    · rename_i hb
      rw [if_pos hb] at h
      simp only [h]
      rfl
    · rfl

theorem switched_feed (e : Engine) (chunk : Bytes) :
    switched (e.feed chunk).notes =
      echoSwitches e.suppressed ((occurrences chunk).map Occurrence.proposal) := by
  induction chunk using Stream.induction generalizing e with
  | nil => rfl
  | triple p rest ih =>
    have hcons : (p :: ((occurrences rest).map Occurrence.proposal)) =
        [p] ++ (occurrences rest).map Occurrence.proposal := rfl
    rw [feed_triple, occurrences_triple, List.map_cons, List.map_map]
    simp only [Function.comp_def, Occurrence.shift_proposal]
    rw [hcons, echoSwitches_append, ← switched_accept, List.foldl_cons, List.foldl_nil,
      ← accept_suppressed, ← ih]
    exact switched_append _ _
  | other b rest h ih =>
    rw [switched_feed_other e b rest h, occurrences_other b rest h, ih, List.map_map]
    simp only [Function.comp_def, Occurrence.shift_proposal]

/-- The engine before some proposals and after each of them. -/
def course (e : Engine) (answered : List Proposal) : List Engine :=
  answered.scanl (fun e p => (e.accept p).1) e

theorem course_cons (e : Engine) (p : Proposal) (rest : List Proposal) :
    e.course (p :: rest) = e :: (e.accept p).1.course rest := List.scanl_cons

theorem map_suppressed_course (e : Engine) (answered : List Proposal) :
    (e.course answered).map suppressed = answered.scanl Proposal.suppresses e.suppressed := by
  induction answered generalizing e with
  | nil => rfl
  | cons p rest ih => rw [course_cons, List.map_cons, ih, List.scanl_cons, accept_suppressed]

theorem getLast?_course (e : Engine) (answered : List Proposal) :
    (e.course answered).getLast? =
      some ⟨e.term, answered.foldl Proposal.suppresses e.suppressed⟩ := by
  induction answered generalizing e with
  | nil => rfl
  | cons p rest ih =>
    rw [course_cons, List.getLast?_cons, ih, Option.getD_some, accept_term, accept_suppressed,
      List.foldl_cons]

theorem acceptAll_eq_foldl (e : Engine) (found : List Occurrence) :
    (e.acceptAll found).suppressed =
      (found.map Occurrence.proposal).foldl Proposal.suppresses e.suppressed := by
  induction found generalizing e with
  | nil => rfl
  | cons o found ih =>
    rw [acceptAll_cons, ih, List.map_cons, List.foldl_cons, accept_suppressed]

theorem switched_use (e : Engine) (u : Use) :
    switched (e.use u).notes = echoSwitches e.suppressed u.answered := by
  cases u with
  | feed chunk => exact e.switched_feed chunk
  | answer p => exact e.switched_accept p

theorem use_engine (e : Engine) (u : Use) :
    (e.use u).engine = ⟨e.term, u.answered.foldl Proposal.suppresses e.suppressed⟩ := by
  cases u with
  | feed chunk =>
    obtain ⟨hengine, -, -⟩ := e.feed_eq_without chunk
    have hterm := e.acceptAll_term (occurrences chunk)
    have hsuppressed := e.acceptAll_eq_foldl (occurrences chunk)
    show (e.feed chunk).engine = _
    rw [hengine]
    show (⟨(e.acceptAll _).term, (e.acceptAll _).suppressed⟩ : Engine) = _
    rw [hterm, hsuppressed]
    rfl
  | answer p =>
    show (⟨(e.accept p).1.term, (e.accept p).1.suppressed⟩ : Engine) = _
    rw [accept_term, accept_suppressed]
    rfl

theorem use_response (e : Engine) (u : Use) :
    (e.use u).response = u.answered.flatMap fun p => p.wireReply e.term := by
  cases u with
  | feed chunk =>
    obtain ⟨-, -, hresponse⟩ := e.feed_eq_without chunk
    show (e.feed chunk).response = _
    rw [hresponse, Use.answered, List.flatMap_map, replies]
  | answer p =>
    show p.reply e.term = _
    rw [Proposal.reply_eq, Use.answered, List.flatMap_singleton]

end Engine

end Telnet
