import TradeGate.Market.Signal

/-!
# Decisions

A decision is the outcome of admission for one signal.  A rejection is a value like an
admission; it names the risk that was not accepted and the reason.
-/

namespace TradeGate

/-- The outcome of admission. -/
inductive Verdict where
  | admitted
  | rejected
deriving DecidableEq, Repr, Inhabited

/-- The word for a verdict. -/
def Verdict.word : Verdict → String
  | admitted => "admit"
  | rejected => "reject"

/-- The verdict that a word stands for. -/
def Verdict.ofWord? (s : String) : Option Verdict :=
  if s = "admit" then some .admitted else if s = "reject" then some .rejected else none

/-- A verdict on a signal, with the name of the risk and the reason where it is a
rejection. -/
structure Decision where
  verdict : Verdict
  signal : Signal
  riskName : Option String
  reason : Option String
  timestamp : Option Instant
deriving DecidableEq, Repr, Inhabited

namespace Decision

/-- A decision on a signal that is given, from its other fields. -/
def readOther (signal : Reading Signal) (fields : Fields) : Reading Decision :=
  Decision.mk
    <$> fields.required "verdict" (Value.readChoice Verdict.ofWord?)
    <*> signal
    <*> fields.optional "risk_name" none (Value.readNullable Value.readText)
    <*> fields.optional "reason" none (Value.readNullable Value.readText)
    <*> fields.optional "timestamp" none (Value.readNullable Value.readInstant)

/-- A decision from its fields. -/
def read (fields : Fields) : Reading Decision :=
  readOther (fields.required "signal" (Value.readRecord Signal.read)) fields

/-- The fields of a decision by name. -/
def toFields (d : Decision) : Fields :=
  [("verdict", .text d.verdict.word), ("signal", .record d.signal.toFields),
    ("risk_name", Fields.entry .text d.riskName), ("reason", Fields.entry .text d.reason),
    ("timestamp", Fields.entry .instant d.timestamp)]

/-- The admission of a signal. -/
def admission (signal : Signal) (timestamp : Option Instant) : Decision :=
  ⟨.admitted, signal, none, none, timestamp⟩

/-- The rejection of a signal. -/
def rejection (signal : Signal) (riskName reason : String) (timestamp : Option Instant) :
    Decision :=
  ⟨.rejected, signal, some riskName, some reason, timestamp⟩

/-- Whether the signal was admitted. -/
def admitted (d : Decision) : Bool :=
  d.verdict == .admitted

def symbol (d : Decision) : String :=
  d.signal.symbol

end Decision

end TradeGate
