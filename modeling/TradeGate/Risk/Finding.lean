import TradeGate.Risk.Gate

/-!
# Answers of checks

A check answers with a finding or with a plain value.  Nothing, a true answer and an
empty text speak for a signal; a false answer and a text that is not empty speak
against it.  A finding stands for itself, except that a failure without a reason is
given the check's note, or a default where the note is empty too.
-/

namespace TradeGate

/-- What a check answers. -/
inductive Answer where
  | finding (f : Finding)
  | value (v : Value)
deriving Repr, Inhabited

namespace Finding

/-- The reason of a failure for which nothing else is given. -/
def defaultReason : String := "Validation failed"

/-- The first value that counts as true, or else the default reason. -/
def reasonOf (choices : List Value) : Value :=
  (choices.find? Value.truth).getD (.text defaultReason)

/-- The finding that an answer stands for. -/
def ofAnswer (note : Value) : Answer → Except Fault Finding
  | .finding f =>
    .ok (if f.passed.truth || f.reason.truth then f else .fail (reasonOf [note]))
  | .value .null => .ok .pass
  | .value (.bool true) => .ok .pass
  | .value (.bool false) => .ok (.fail (reasonOf [note]))
  | .value (.text s) => .ok (if s.isEmpty then .pass else .fail (.text s))
  | .value (.broken s) => .ok (.fail (.broken s))
  | .value v => .error (.unsupportedAnswer v.kindName)

/-- The finding of a check that stopped with a fault. -/
def ofFault (note : Value) (e : Fault) : Finding :=
  .fail (reasonOf [e.said, note])

/-- A failure always has a reason that counts as true. -/
theorem truth_reasonOf
    (choices : List Value) :
  (reasonOf choices).truth = true
  := by
  unfold reasonOf
  cases h : choices.find? Value.truth with
  | none => decide
  | some v => simpa using List.find?_some h

end Finding

end TradeGate
