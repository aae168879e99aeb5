import Telnet.Proofs.Address.Basic
import Telnet.Proofs.Client.Resolving
import Telnet.Proofs.Connection.Ordinary

/-!
# How a host is resolved

A host that ends with a digit is read and nobody is asked for it; without a colon it has to be a
dotted address (`resolve_reads_dotted`). Any other host has the address that a resolver answers. A
failure to resolve it is reported, unless the resolver answers with what is no address
(`resolve_reports_host`).
-/

namespace Telnet.Resolution

variable {σ : Type} {resolver : Resolver} {host : String}

/-! ### Hosts that are addresses -/

theorem run_literal (logger : String) (resolver : Resolver) (h : isLiteral host = true) (s : σ) :
    (resolve logger resolver host).run s =
      ⟨found resolver host, s, []⟩ := by
  unfold resolve found
  rw [if_pos h, if_pos h]
  cases Address.ofText? host <;> rfl

/-- Without a colon a host that ends with a digit is a dotted address or none. -/
theorem found_literal (resolver : Resolver) (h : isLiteral host = true)
    (hcolon : ':' ∉ host.toList) :
    found resolver host =
      match Address.V4.ofText? host.toList with
      | some n => .ok (.v4 n)
      | none => .error (.client (.invalidAddress (.text host))) := by
  rw [found, if_pos h, Address.ofText?_of_notMem hcolon]
  cases Address.V4.ofText? host.toList <;> rfl

theorem text_of_found_literal {a : Address} (h : isLiteral host = true)
    (hcolon : ':' ∉ host.toList) (hfound : found resolver host = .ok a) :
    a.version = 4 ∧ a.text = host := by
  rw [found_literal _ h hcolon] at hfound
  cases hread : Address.V4.ofText? host.toList with
  | none =>
    rw [hread] at hfound
    cases hfound
  | some n =>
    rw [hread] at hfound
    cases hfound
    refine ⟨rfl, ?_⟩
    rw [Address.text, ← Address.V4.ofText?_eq_some_iff.1 hread, String.ofList_toList]

/-- A host without a colon that ends with a digit is read, whatever the resolver is, and nothing
else is done. It has an address exactly if it is dotted, the one of which it is the print, so that
other hosts have other addresses; and if it is not dotted then it is refused. -/
theorem resolve_reads_dotted (logger : String) (resolver : Resolver) (host : String) (s : σ)
    (hliteral : isLiteral host = true) (hcolon : ':' ∉ host.toList) :
    let r := (resolve logger resolver host).run s
    r.events = [] ∧ r.state = s ∧
      ((∃ n, r.outcome = .ok (.v4 n)) ↔ Address.V4.IsDotted host.toList) ∧
      (∀ a, r.outcome = .ok a → a.version = 4 ∧ a.text = host) ∧
      (∀ other : String, isLiteral other = true → ':' ∉ other.toList → other ≠ host →
        ∀ a, r.outcome = .ok a →
          ((resolve logger resolver other).run s).outcome ≠ .ok a) ∧
      (¬Address.V4.IsDotted host.toList →
        r.outcome = .error (.client (.invalidAddress (.text host)))) := by
  intro r
  have hrun : r = ⟨found resolver host, s, []⟩ := run_literal logger resolver hliteral s
  have hfound := found_literal resolver hliteral hcolon
  rw [hrun]
  refine ⟨rfl, rfl, ?_, ?_, ?_, ?_⟩
  · rw [Address.V4.isDotted_iff, hfound]
    cases Address.V4.ofText? host.toList <;> simp
  · intro a ha
    exact text_of_found_literal hliteral hcolon ha
  · intro other hother hcolon' hne a ha hsame
    rw [run_literal logger resolver hother s] at hsame
    have htext := (text_of_found_literal hliteral hcolon ha).2
    have htext' := (text_of_found_literal hother hcolon' hsame).2
    exact hne (htext'.symm.trans htext)
  · intro hdotted
    have hnone : Address.V4.ofText? host.toList = none := by
      cases hread : Address.V4.ofText? host.toList with
      | none => rfl
      | some n => exact absurd (Address.V4.isDotted_iff.2 ⟨n, hread⟩) hdotted
    simp only [hfound, hnone]

theorem resolve_reads_dotted_octets :
    let outcome := fun host =>
      ((resolve "" (.given (.ok (.number 7))) host : Act Effect Unit Address).run ()).outcome
    isLiteral "10.0.0.255" = true ∧ isLiteral "10.0.0.025" = true ∧
      (∃ n, outcome "10.0.0.255" = .ok (.v4 n) ∧ (Address.v4 n).text = "10.0.0.255") ∧
      outcome "10.0.0.025" = .error (.client (.invalidAddress (.text "10.0.0.025"))) := by
  intro outcome
  have hliteral : isLiteral "10.0.0.255" = true := by decide
  have hliteral' : isLiteral "10.0.0.025" = true := by decide
  have hread : ∃ n, Address.V4.ofText? "10.0.0.255".toList = some n := ⟨167772415, rfl⟩
  have hzero : ¬Address.V4.IsDotted "10.0.0.025".toList := by
    rw [Address.V4.isDotted_iff]
    rintro ⟨n, hn⟩
    cases hn
  obtain ⟨-, -, hdotted, htext, -, -⟩ :=
    resolve_reads_dotted "" (.given (.ok (.number 7))) "10.0.0.255" () hliteral (by decide)
  obtain ⟨-, -, -, -, -, hrefused⟩ :=
    resolve_reads_dotted "" (.given (.ok (.number 7))) "10.0.0.025" () hliteral' (by decide)
  obtain ⟨n, hn⟩ := hdotted.2 (Address.V4.isDotted_iff.2 hread)
  exact ⟨hliteral, hliteral', ⟨n, hn, (htext _ hn).2⟩, hrefused hzero⟩

/-! ### Hosts that are names -/

/-- The failures by which a host is refused: it is no address, or there is a reason why it has none.
-/
def Refuses (host : String) (f : Failure) : Prop :=
  f = .client (.invalidAddress (.text host)) ∨
    ∃ reason, f = .client (.resolution (.text host) reason)

def Settles (host : String) (outcome : Except Failure Address) : Prop :=
  (∃ a, outcome = .ok a) ∨ ∃ f, outcome = .error f ∧ Refuses host f

theorem found_name (resolver : Resolver) (h : isLiteral host = false) :
    found resolver host = match answer resolver with
      | .ok answer => answer.address
      | .error f => .error (reported host f) := by
  have hname : ¬isLiteral host = true := by
    rw [h]
    exact Bool.false_ne_true
  exact if_neg hname

theorem found_answered {given : Answer} (h : isLiteral host = false)
    (hanswer : answer resolver = .ok given) : found resolver host = given.address := by
  rw [found_name _ h, hanswer]

theorem found_failed {f : Failure} (h : isLiteral host = false)
    (hanswer : answer resolver = .error f) :
    found resolver host = .error (reported host f) := by
  rw [found_name _ h, hanswer]

theorem found_cases (resolver : Resolver) (host : String) :
    (∃ a, Address.ofText? host = some a ∧ found resolver host = .ok a) ∨
      found resolver host = .error (.client (.invalidAddress (.text host))) ∨
      (∃ given, answer resolver = .ok given ∧ found resolver host = given.address) ∨
      ∃ f, answer resolver = .error f ∧ found resolver host = .error (reported host f) := by
  cases hliteral : isLiteral host with
  | true =>
    rw [found, if_pos hliteral]
    cases Address.ofText? host with
    | some a => exact .inl ⟨a, rfl, rfl⟩
    | none => exact .inr (.inl rfl)
  | false =>
    cases hanswer : answer resolver with
    | ok given => exact .inr (.inr (.inl ⟨given, rfl, found_answered hliteral hanswer⟩))
    | error f => exact .inr (.inr (.inr ⟨f, rfl, found_failed hliteral hanswer⟩))

theorem found_congr {other : Resolver} (h : answer resolver = answer other) :
    found resolver host = found other host := by
  rw [found, found, h]

theorem reported_of_lookup (host : String) {f : Failure}
    (h : f.IsSystem ∨ ∃ details, f = .encoding details) :
    ∃ reason, reported host f = .client (.resolution (.text host) reason) := by
  rcases h with hsystem | ⟨details, rfl⟩
  · obtain ⟨e, rfl⟩ := hsystem.eq_system
    exact ⟨_, rfl⟩
  · exact ⟨_, rfl⟩

theorem firstInternet?_append {front : List (ServiceFamily × String)}
    (h : ∀ e ∈ front, e.1 = .file) (rest : List (ServiceFamily × String)) :
    firstInternet? (front ++ rest) = firstInternet? rest := by
  induction front with
  | nil => rfl
  | cons e front ih =>
    obtain ⟨family, address⟩ := e
    have hfile : family = .file := h (family, address) List.mem_cons_self
    have hfront := ih fun e he => h e (List.mem_cons_of_mem _ he)
    rw [hfile]
    exact hfront

theorem answer_service {front : List (ServiceFamily × String)} (h : ∀ e ∈ front, e.1 = .file)
    (family : Family) (text : String) (rest : List (ServiceFamily × String)) :
    answer (.service (.ok (front ++ (.internet family, text) :: rest))) =
      answer (.given (.ok (.text text))) := by
  have hfirst : firstInternet? (front ++ (.internet family, text) :: rest) = some text := by
    rw [firstInternet?_append h]
    rfl
  simp only [answer, hfirst]

theorem answer_service_none {entries : List (ServiceFamily × String)}
    (h : ∀ e ∈ entries, e.1 = .file) :
    answer (.service (.ok entries)) = .error nothingFound := by
  have hnone : firstInternet? entries = none := by
    rw [← List.append_nil entries, firstInternet?_append h]
    rfl
  simp only [answer, hnone]

theorem address_of_none {given : Answer} (h : given.address? = none) :
    given.address = .error (.value (.notAnAddress given.datum.quoted)) := by
  rw [Answer.address, h]

theorem address_ok_iff {given : Answer} {a : Address} :
    given.address = .ok a ↔ given.address? = some a := by
  rw [Answer.address]
  cases given.address? <;> simp

theorem settles_literal (h : isLiteral host = true) : Settles host (found resolver host) := by
  rw [found, if_pos h]
  cases Address.ofText? host with
  | some a => exact .inl ⟨a, rfl⟩
  | none => exact .inr ⟨_, rfl, .inl rfl⟩

/-- The fault of an answer that is no address is not one of the host. -/
theorem settles_address_iff {given : Answer} :
    Settles host given.address ↔ ∃ a, given.address? = some a := by
  cases haddress : given.address? with
  | some a => exact ⟨fun _ => ⟨a, rfl⟩, fun _ => .inl ⟨a, address_ok_iff.2 haddress⟩⟩
  | none =>
    have hfault := address_of_none haddress
    constructor
    · rintro (⟨a, ha⟩ | ⟨f, hf, hrefuses⟩)
      · rw [hfault] at ha
        cases ha
      · rw [hfault] at hf
        cases hf
        rcases hrefuses with h | ⟨reason, h⟩ <;> cases h
    · rintro ⟨a, ha⟩
      cases ha

theorem settles_iff
    (hfailure : ∀ f, answer resolver = .error f → f.IsSystem ∨ ∃ details, f = .encoding details) :
    Settles host (found resolver host) ↔
      (isLiteral host = false → ∀ given, answer resolver = .ok given →
        ∃ a, given.address? = some a) := by
  cases hliteral : isLiteral host with
  | true => exact ⟨fun _ h => absurd h (by decide), fun _ => settles_literal hliteral⟩
  | false =>
    cases hanswer : answer resolver with
    | error f =>
      obtain ⟨reason, hreason⟩ := reported_of_lookup host (hfailure f hanswer)
      have hfound := found_failed hliteral hanswer
      exact ⟨fun _ _ _ h => (nomatch h), fun _ => .inr ⟨_, hfound, .inr ⟨reason, hreason⟩⟩⟩
    | ok given =>
      rw [found_answered hliteral hanswer, settles_address_iff]
      constructor
      · intro h _ given' hgiven
        cases hgiven
        exact h
      · intro h
        exact h rfl given rfl

/-- What leaves a resolution is an address or a failure of the host, unless the host is a name and
the resolver answers with what is no address: then the fault of that answer leaves it. Of the
entries that the name service returns the first one for the internet counts and no other. -/
theorem resolve_reports_host (logger : String) (resolver : Resolver) (host : String) (s : σ)
    (hfailure : ∀ f, answer resolver = .error f → f.IsSystem ∨ ∃ details, f = .encoding details) :
    let outcome := fun resolver => ((resolve logger resolver host).run s).outcome
    (Settles host (outcome resolver) ↔
      (isLiteral host = false → ∀ given, answer resolver = .ok given →
        ∃ a, given.address? = some a)) ∧
    (isLiteral host = false → ∀ f, answer resolver = .error f →
      ∃ reason, outcome resolver = .error (.client (.resolution (.text host) reason))) ∧
    (isLiteral host = false → ∀ given, answer resolver = .ok given → given.address? = none →
      outcome resolver = .error (.value (.notAnAddress given.datum.quoted))) ∧
    (∀ front family text rest, (∀ e ∈ front, e.1 = .file) →
      outcome (.service (.ok (front ++ (.internet family, text) :: rest))) =
        outcome (.given (.ok (.text text)))) ∧
    (∀ entries, (∀ e ∈ entries, e.1 = .file) → isLiteral host = false →
      outcome (.service (.ok entries)) =
        .error (.client (.resolution (.text host) (.text "no address found")))) := by
  intro outcome
  have houtcome : ∀ resolver, outcome resolver = found resolver host :=
    fun resolver => outcome_resolve logger resolver host s
  refine ⟨?_, ?_, ?_, ?_, ?_⟩
  · rw [houtcome]
    exact settles_iff hfailure
  · intro hname f hf
    obtain ⟨reason, hreason⟩ := reported_of_lookup host (hfailure f hf)
    refine ⟨reason, ?_⟩
    rw [houtcome, found_failed hname hf, hreason]
  · intro hname given hgiven hnone
    rw [houtcome, found_answered hname hgiven, address_of_none hnone]
  · intro front family text rest hfront
    rw [houtcome, houtcome]
    exact found_congr (answer_service hfront family text rest)
  · intro entries hfile hname
    rw [houtcome, found_failed hname (answer_service_none hfile)]
    rfl

/-- A name that cannot be encoded has no address for a reason. -/
theorem resolve_reports_host_unencodable :
    let resolver : Resolver := .given (.error (.encoding [.text "label too long"]))
    isLiteral "a..b" = false ∧ ∃ reason,
      ((resolve "" resolver "a..b" : Act Effect Unit Address).run ()).outcome =
        .error (.client (.resolution (.text "a..b") reason)) := by
  intro resolver
  have hname : isLiteral "a..b" = false := by decide
  obtain ⟨-, hreports, -, -, -⟩ := resolve_reports_host "" resolver "a..b" () fun f hf => by
    cases hf
    exact .inr ⟨_, rfl⟩
  exact ⟨hname, hreports hname _ rfl⟩

/-- An answer that is no address leaves the resolution as a fault of its own. -/
theorem resolve_answer_no_address :
    let outcome :=
      ((resolve "" (.given (.ok (.text "nowhere"))) "localhost" : Act Effect Unit Address).run
        ()).outcome
    ¬Settles "localhost" outcome ∧ outcome = .error (.value (.notAnAddress "'nowhere'")) := by
  intro outcome
  have hname : isLiteral "localhost" = false := by decide
  have hnone : (Answer.text "nowhere").address? = none := by decide
  have hquoted : (Answer.text "nowhere").datum.quoted = "'nowhere'" := by decide
  have houtcome : outcome = (Answer.text "nowhere").address :=
    (outcome_resolve "" _ "localhost" ()).trans (found_answered hname rfl)
  refine ⟨fun hsettles => ?_, ?_⟩
  · rw [houtcome, settles_address_iff] at hsettles
    obtain ⟨a, ha⟩ := hsettles
    rw [hnone] at ha
    cases ha
  · rw [houtcome, address_of_none hnone, hquoted]

end Telnet.Resolution
