import TradeGate.Risk.Registry
import Mathlib.Tactic.Common

/-!
# Objections of checks

A check that has run either supports the signal or objects to it.  It objects by a false
answer, a text, a finding that is not passed, a value that is no answer, or a fault, and
what it says for itself may be empty.  The reason of the rejection is then the note of the
check, and the default reason if that is empty too.
-/

namespace TradeGate

/-- Whether a value is an answer of some kind, apart from a finding. -/
def Value.isAnswer : Value → Bool
  | .null | .bool _ | .text _ | .broken _ => true
  | _ => false

/-- A check that ends so supports the signal. -/
inductive Supports : Except Fault Answer → Prop where
  | nothing : Supports (.ok (.value .null))
  | yes : Supports (.ok (.value (.bool true)))
  | emptyText : Supports (.ok (.value (.text "")))
  | finding {f : Finding} (hf : f.isPass = true) : Supports (.ok (.finding f))

/-- A check that ends so objects to the signal, in words of its own that may be empty. -/
inductive Objects : Except Fault Answer → String → Prop where
  | no : Objects (.ok (.value (.bool false))) ""
  | text {s : String} (hs : s ≠ "") : Objects (.ok (.value (.text s))) s
  | finding {f : Finding} {s : String} (hf : f.isPass = false) (hs : f.reason = .text s) :
      Objects (.ok (.finding f)) s
  | noAnswer {v : Value} (hv : v.isAnswer = false) :
      Objects (.ok (.value v)) ("Validation returned unsupported value of type " ++ v.kindName)
  | fault {e : Fault} (he : e.isOrdinary = true) (hb : e.isBroken = false) :
      Objects (.error e) e.text

/-- No check both supports a signal and objects to it. -/
theorem Supports.not_objects
    {r : Except Fault Answer} {own : String} (hr : Supports r) :
  ¬ Objects r own
  := by
  intro ho
  cases hr with
  | nothing => cases ho with
    | noAnswer hv => simp [Value.isAnswer] at hv
  | yes => cases ho with
    | noAnswer hv => simp [Value.isAnswer] at hv
  | emptyText => cases ho with
    | text hs => apply hs rfl
    | noAnswer hv => simp [Value.isAnswer] at hv
  | finding hf => cases ho with
    | finding hf' => simp [hf] at hf'

/-! ### Reasons -/

/-- The reason of a rejection: the check's own words, or else its note, or else the default
reason. -/
def reasonFor (own note : String) : String :=
  if own ≠ "" then own else if note ≠ "" then note else Finding.defaultReason

/-- A reason is never empty. -/
theorem reasonFor_ne_empty
    (own note : String) :
  reasonFor own note ≠ ""
  := by
  unfold reasonFor
  split
  next h => apply h
  next =>
    split
    next h => apply h
    next => decide

theorem reasonFor_of_ne_empty
    {own : String} (h : own ≠ "") (note : String) :
  reasonFor own note = own
  := by
  simp [reasonFor, h]

@[simp]
theorem Value.truth_text
    (s : String) :
  (Value.text s).truth = !(s == "")
  := by
  rw [Value.truth, Bool.eq_iff_iff]
  simp

/-- The first of two texts that is not empty, or else the default reason. -/
theorem Finding.reasonOf_texts
    (own note : String) :
  Finding.reasonOf [.text own, .text note] = .text (reasonFor own note)
  := by
  by_cases ho : own = "" <;> by_cases hn : note = "" <;>
    simp [Finding.reasonOf, reasonFor, ho, hn]

/-- The note of a check stands for words of its own that are missing. -/
theorem Finding.reasonOf_note
    (note : String) :
  Finding.reasonOf [.text note] = .text (reasonFor "" note)
  := by
  by_cases hn : note = "" <;> simp [Finding.reasonOf, reasonFor, hn]

/-! ### Findings -/

namespace Check

variable {σ : Type}

/-- What a check with a note finds if it ends so. -/
def findingOf (note : Value) (r : Except Fault Answer) : Except Fault Finding :=
  match r.bind (Finding.ofAnswer note) with
  | .ok f => .ok f
  | .error e => if e.isOrdinary then .ok (.ofFault note e) else .error e

/-- A check runs once, and what it finds is told by how it ended. -/
theorem outcome_find
    (c : Check σ) (i : Inspection) (stack : Stack) (s : σ) :
  (c.find i).outcome stack s
    = (findingOf c.note ((c.run i).outcome stack s).1, ((c.run i).outcome stack s).2)
  := by
  unfold find findingOf
  rw [Act.outcome_tryCatch, Act.outcome_bind]
  rcases (c.run i).outcome stack s with ⟨e | a, s'⟩
  · by_cases he : e.isOrdinary = true <;> simp [Except.bind, he]
  · simp only [Except.bind, Act.outcome_ofExcept]
    cases Finding.ofAnswer c.note a with
    | ok f => rfl
    | error e => by_cases he : e.isOrdinary = true <;> simp [he]

end Check

/-- A check that supports a signal is passed. -/
theorem Supports.findingOf
    {r : Except Fault Answer} (hr : Supports r) (note : Value) :
  ∃ f, Check.findingOf note r = .ok f ∧ f.isPass = true
  := by
  cases hr with
  | @finding f hf =>
    have hpass : f.passed.truth = true := hf
    use f
    constructor
    · simp [Check.findingOf, Except.bind, Finding.ofAnswer, hpass]
    · apply hf
  | nothing => use .pass, rfl; rfl
  | yes => use .pass, rfl; rfl
  | emptyText => use .pass, rfl; rfl

/-- A check with a note that ends so fails for a reason. -/
def Fails (note : Value) (r : Except Fault Answer) (reason : Value) : Prop :=
  ∃ f, Check.findingOf note r = .ok f ∧ f.isPass = false ∧ f.reason = reason

/-- A check that objects to a signal fails, for a reason that is its own words or else its
note or else the default reason. -/
theorem Objects.fails
    {r : Except Fault Answer} {own : String} (hr : Objects r own) (note : String) :
  Fails (.text note) r (.text (reasonFor own note))
  := by
  unfold Fails
  cases hr with
  | no =>
    use .fail (Finding.reasonOf [.text note]), rfl, rfl
    apply Finding.reasonOf_note
  | text hs =>
    use .fail (.text own)
    rw [reasonFor_of_ne_empty hs]
    simp [Check.findingOf, Except.bind, Finding.ofAnswer, Finding.isPass, Finding.fail,
      Value.truth, hs]
  | @finding f _ hf hs =>
    have hfail : f.passed.truth = false := hf
    by_cases ho : own = ""
    · use .fail (Finding.reasonOf [.text note])
      constructor
      · simp [Check.findingOf, Except.bind, Finding.ofAnswer, hfail, hs, ho]
      · rw [ho]
        use rfl
        apply Finding.reasonOf_note
    · use f
      rw [reasonFor_of_ne_empty ho]
      simp [Check.findingOf, Except.bind, Finding.ofAnswer, hfail, hs, ho, hf]
  | @noAnswer v hv =>
    have herror : Finding.ofAnswer (.text note) (.value v)
        = .error (.unsupportedAnswer v.kindName) := by
      cases v <;> first | rfl | simp [Value.isAnswer] at hv
    use .ofFault (.text note) (.unsupportedAnswer v.kindName)
    constructor
    · simp [Check.findingOf, Except.bind, herror, Fault.isOrdinary]
    · use rfl
      simp only [Finding.ofFault, Finding.fail, Fault.said]
      apply Finding.reasonOf_texts
  | @fault e he hb =>
    use .ofFault (.text note) e
    constructor
    · simp [Check.findingOf, Except.bind, he]
    · use rfl
      simp only [Finding.ofFault, Finding.fail, Fault.said_of_not_isBroken hb]
      apply Finding.reasonOf_texts

end TradeGate
