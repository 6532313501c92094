import TradeGate.Decimal.Basic
import TradeGate.Reading

/-!
# Faults

Everything that can stop an action, by cause.  A fault of a callback is carried along
under its own label.  All faults but a cancellation are ordinary: they may be reported
or absorbed where a callback's failure must not spread.
-/

namespace TradeGate

/-- Why a risk is not registered. -/
inductive RiskFlaw where
  /-- The argument is not a risk at all but a value of the given kind. -/
  | notRisk (kind : String)
  | missingName
  /-- A check of the named risk cannot be run. -/
  | notRunnable (name : Value)
  | duplicate (name : Value)
deriving Repr

/-- A value with texts before and after it; a broken text stays broken. -/
def Value.between (s : String) (v : Value) (s' : String) : Value :=
  match v with
  | .broken t => .broken (t.between s s')
  | v => .text (s ++ v.plain ++ s')

/-- What the flaw says. -/
def RiskFlaw.said : RiskFlaw → Value
  | notRisk kind => .text ("risk schema validation failed: expected RiskSchema, got " ++ kind)
  | missingName => .text "risk schema validation failed: missing risk_name"
  | notRunnable name =>
    name.between "risk schema validation failed: " " has a non-callable validation"
  | duplicate name => name.between "risk " " already exist"

/-- Whether a value is a text with code points that are no characters. -/
def Value.isBroken : Value → Bool
  | .broken _ => true
  | _ => false

theorem RiskFlaw.said_of_not_isBroken
    {f : RiskFlaw} (hf : f.said.isBroken = false) :
  f.said = .text f.said.plain
  := by
  have hbetween (s : String) (v : Value) (s' : String)
      (hv : (v.between s s').isBroken = false) :
      v.between s s' = .text (v.between s s').plain := by
    unfold Value.between at hv ⊢
    split at hv
    · cases hv
    · rfl
  cases f with
  | notRisk kind => rfl
  | missingName => rfl
  | notRunnable name => apply hbetween _ _ _ hf
  | duplicate name => apply hbetween _ _ _ hf

/-- Why a path cannot be written or read. -/
inductive PathFlaw where
  /-- A folder stands where a document is meant. -/
  | isFolder
  /-- A document stands where the last folder is meant. -/
  | isDocument
  /-- A document stands on the way. -/
  | blocked
  /-- A folder on the way is missing. -/
  | missing
deriving DecidableEq, Repr

/-- The cause of a stop. -/
inductive Fault where
  /-- A decimal operation has no result. -/
  | trapped (t : Decimal.Trap)
  /-- A record was refused. -/
  | refused (r : Refusal)
  /-- A callback's own failure, with its label and its message. -/
  | raised (label : String) (message : Option Value)
  /-- A name or key is unknown. -/
  | unknownKey (key : Option Value)
  /-- A risk is not registered. -/
  | riskRefused (f : RiskFlaw)
  /-- The computation behind a cached value failed. -/
  | computationFailed (key window message : Value) (cause : Option Fault)
  /-- The task was cancelled. -/
  | cancelled
  /-- A check answered with a value that is no answer. -/
  | unsupportedAnswer (kind : String)
  /-- Values of two kinds have no order. -/
  | incomparable (relation left right : String)
  /-- Values of two kinds cannot be combined. -/
  | incompatible (operation left right : String)
  /-- A value of a kind that cannot serve as a key. -/
  | notKey (kind : String)
  /-- A value without the named attribute. -/
  | noAttribute (kind name : String)
  /-- A record has no field of the given name. -/
  | noField (record : Subject) (name : String)
  /-- A value is of a kind that cannot be used here. -/
  | wrongKind (expected found : String)
  /-- A whole number was divided by zero. -/
  | zeroDivision (text : String)
  /-- A text or number is not acceptable. -/
  | badValue (text : String)
  /-- A number is too large or not a number. -/
  | outOfRange (text : String)
  /-- A value would have too many items to be held. -/
  | exhausted
  /-- An index is outside its list. -/
  | badIndex (text : String)
  /-- A stream was entered a second time. -/
  | enteredTwice
  /-- A stream was drained without being entered. -/
  | notEntered
  /-- A frame was left in another context than it was entered in. -/
  | foreignContext
  /-- A path cannot be written or read. -/
  | path (f : PathFlaw)
  /-- A path or a name in it is too long. -/
  | tooLong
  /-- A variable without a name. -/
  | nameless
  /-- A text is not well-formed. -/
  | malformed
deriving Repr, Inhabited

namespace Fault

/-- Whether a fault may be absorbed where failures must not spread. -/
def isOrdinary : Fault → Bool
  | cancelled => false
  | _ => true

/-- The beginning of the text of a failed computation. -/
def computationHead (key window : Value) : String :=
  "Cached computation failed for key=" ++ key.form ++ " window=" ++ window.plain

/-- The text of a failed computation. -/
def computationText (key window message : Value) : String :=
  computationHead key window ++ (if message.truth then ": " ++ message.plain else "")

/-- The text of a fault. -/
def text : Fault → String
  | trapped t => t.message
  | refused r => r.text
  | raised _ message => (message.map Value.plain).getD ""
  | unknownKey key => (key.map Value.form).getD ""
  | riskRefused f => f.said.plain
  | computationFailed key window message _ => computationText key window message
  | cancelled => ""
  | unsupportedAnswer kind => "Validation returned unsupported value of type " ++ kind
  | incomparable relation left right =>
    "'" ++ relation ++ "' not supported between instances of '" ++ left ++ "' and '" ++ right
      ++ "'"
  | incompatible operation left right =>
    "unsupported operand type(s) for " ++ operation ++ ": '" ++ left ++ "' and '" ++ right ++ "'"
  | notKey kind => "unhashable type: '" ++ kind ++ "'"
  | noAttribute kind name => "'" ++ kind ++ "' object has no attribute '" ++ name ++ "'"
  | noField record name => "\"" ++ record.title ++ "\" object has no field \"" ++ name ++ "\""
  | wrongKind expected found => expected ++ " expected, got " ++ found
  | zeroDivision text => text
  | badValue text => text
  | outOfRange text => text
  | exhausted => ""
  | badIndex text => text
  | enteredTwice => "ScopedStream can only be entered once"
  | notEntered => "ScopedStream must be drained inside 'async with run_scoped(...)'"
  | foreignContext => ""
  | path _ => ""
  | tooLong => ""
  | nameless => ""
  | malformed => ""

/-- Whether the text of a fault has code points that are no characters. -/
def isBroken : Fault → Bool
  | raised _ (some (.broken _)) => true
  | computationFailed _ _ (.broken _) _ => true
  | riskRefused f => f.said.isBroken
  | _ => false

/-- What a fault says: its text, which may be broken.  Every fault has a text; an error that fails
to say what it is about is none of these. -/
def said : Fault → Value
  | raised _ (some (.broken t)) => .broken t
  | computationFailed key window (.broken t) _ =>
    .broken (t.between (computationHead key window ++ ": ") "")
  | riskRefused f => f.said
  | e => .text e.text

theorem said_of_not_isBroken
    {e : Fault} (he : e.isBroken = false) :
  e.said = .text e.text
  := by
  unfold said
  split
  · cases he
  · cases he
  · apply RiskFlaw.said_of_not_isBroken he
  · rfl

/-- A fault as it leaves a task or an asynchronous function: the signal that a source is
exhausted must not leave one, and is replaced. -/
def acrossTask : Fault → Fault
  | raised label message =>
    if label = "StopIteration" then
      .raised "RuntimeError" (some (.text "coroutine raised StopIteration"))
    else .raised label message
  | e => e

/-- A fault as it leaves a generator: the signals of an end must not leave one, and are
replaced. -/
def acrossGenerator : Fault → Fault
  | raised label message =>
    if label = "StopIteration" ∨ label = "StopAsyncIteration" then
      .raised "RuntimeError" (some (.text ("async generator raised " ++ label)))
    else .raised label message
  | e => e

end Fault

/-- The named fields of a value, which must be a record. -/
def Value.toFields : Value → Except Fault Fields
  | .record fields => .ok fields
  | v => .error (.wrongKind "named fields" v.kindName)

end TradeGate
