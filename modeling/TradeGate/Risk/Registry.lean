import TradeGate.Market.Decision
import TradeGate.Risk.Check

/-!
# The registry of risks

A registry keeps its risks in the order of registration and only ever gains some; names
are distinct.  It also tracks the open positions by key.  `evaluate` runs the checks of
all risks in order up to the first that fails and turns the outcome into a decision.
-/

namespace TradeGate

/-- The registered risks and the open positions, each in order of arrival. -/
structure Registry (σ : Type) where
  risks : List (Risk σ)
  positions : List (String × OpenPosition)

namespace Registry

variable {σ : Type}

def empty : Registry σ := ⟨[], []⟩

/-- The names of the risks in order. -/
def names (r : Registry σ) : List String :=
  r.risks.map Risk.name

/-- Registers a finished risk as the last one.  Its checks are at hand and cannot be changed by
anyone else, so nothing can go wrong once it is registered. -/
def add (r : Registry σ) (k : Risk σ) : Except RiskFlaw (Registry σ) :=
  if k.name = "" then .error .missingName
  else if k.name ∈ r.names then .error (.duplicate (.text k.name))
  else .ok { r with risks := r.risks ++ [k] }

/-- The registry of a configuration. -/
def ofConfig (c : GateConfig) : Except RiskFlaw (Registry σ) :=
  (Risk.ofConfig c).foldlM add empty

/-- The risk of a given name. -/
def find? (r : Registry σ) (name : String) : Option (Risk σ) :=
  r.risks.find? fun k => k.name == name

/-- The text behind a value that may be a name. -/
def nameOf (v : Value) : Except Fault (Option String) :=
  if v.isKey then
    .ok (match v with
      | .text s => some s
      | _ => none)
  else .error (.notKey v.kindName)

/-- The risk that a value names. -/
def get (r : Registry σ) (name : Value) : Except Fault (Risk σ) := do
  match (← nameOf name).bind r.find? with
  | some k => return k
  | none =>
    let available := if r.risks.isEmpty then "(none)" else String.intercalate ", " r.names
    throw (.unknownKey (some (.text
      ("Unknown risk '" ++ name.plain ++ "'. Available: " ++ available))))

/-- Whether a value names a risk. -/
def has (r : Registry σ) (name : Value) : Except Fault Bool := do
  return ((← nameOf name).bind r.find?).isSome

/-! ### Open positions -/

/-- The list with `p` under its key, in the place of one that is there already. -/
def putPosition (k : String) (p : OpenPosition) :
    List (String × OpenPosition) → List (String × OpenPosition)
  | [] => [(k, p)]
  | (k', p') :: rest => if k' = k then (k, p) :: rest else (k', p') :: putPosition k p rest

/-- Tracks an open position. -/
def openPosition (r : Registry σ) (p : OpenPosition) : Registry σ :=
  { r with positions := putPosition p.key p r.positions }

/-- Stops tracking the position of a strategy, an exchange and a symbol. -/
def closePosition (r : Registry σ) (strategy exchange symbol : String) : Registry σ :=
  let k := OpenPosition.keyOf strategy exchange symbol
  { r with positions := r.positions.filter fun q => q.1 ≠ k }

/-- The open positions in order. -/
def openPositions (r : Registry σ) : List OpenPosition :=
  r.positions.map Prod.snd

/-- The number of open positions. -/
def openCount (r : Registry σ) : Nat :=
  r.positions.length

/-! ### Evaluation -/

/-- The checks of all risks in order, each with its risk. -/
def checks (r : Registry σ) : List (Risk σ × Check σ) :=
  r.risks.flatMap fun k => k.checks.map fun c => (k, c)

/-- The price that a value denotes: a decimal itself, or else its plain text. -/
def priceOf : Value → Except Fault Decimal
  | .decimal d => .ok d
  | v => (Decimal.ofText v.plain).mapError .trapped

/-- The inspection of a signal at a price under a frame. -/
def inspect (r : Registry σ) (frame : Frame) (signal : Signal) (price : Decimal)
    (timestamp : Value) : Except Fault Inspection :=
  ((Inspection.read (signal.withOpenPrice price) r.openPositions
    [("symbol", .text signal.symbol), ("current_price", .decimal price),
      ("timestamp", timestamp), ("strategy_name", frame.strategy),
      ("exchange_name", frame.exchange), ("frame_name", frame.name),
      ("backtest", frame.backtest), ("active_position_count", .int r.openCount)]).finish
    .inspection).mapError .refused

/-- The risk and the reason of the first check that fails. -/
def firstFailure (i : Inspection) :
    List (Risk σ × Check σ) → Act σ (Option (Risk σ × Value))
  | [] => pure none
  | (k, c) :: rest => do
    let f ← c.find i
    if f.isPass then firstFailure i rest else pure (some (k, f.reason))

/-- Tells all risks in order that a signal was admitted. -/
def notifyAllowed (symbol : String) (i : Inspection) : List (Risk σ) → Act σ Unit
  | [] => pure ()
  | k :: rest => do
    k.notifyAllowed symbol i
    notifyAllowed symbol i rest

/-- The decision with given fields on a signal. -/
def decide (signal : Signal) (fields : Fields) : Except Fault Decision :=
  ((Decision.readOther (.done signal) fields).finish .decision).mapError .refused

/-- The time of an evaluation: the given one, or else the signal's. -/
def timestampFor (signal : Signal) (timestamp : Value) : Value :=
  if timestamp.truth then timestamp
  else (signal.timestamp.map Value.instant).getD .null

/-- The inspection that an evaluation makes at the current price.  An open price that the
signal leaves to the market is the current one. -/
def inspectAt (r : Registry σ) (frame : Frame) (signal : Signal) (price timestamp : Value) :
    Except Fault Inspection := do
  r.inspect frame signal (← priceOf price) (timestampFor signal timestamp)

/-- The decision on an inspection: a rejection by the first check that fails, or else an
admission; the risks that it concerns are told. -/
def judge (r : Registry σ) (i : Inspection) (timestamp : Value) : Act σ Decision := do
  match ← firstFailure i r.checks with
  | some (k, reason) => do
    k.notifyRejected i.signal.symbol reason i
    Act.ofExcept (decide i.signal
      [("verdict", .text Verdict.rejected.word), ("risk_name", .text k.name),
        ("reason", reason), ("timestamp", timestamp)])
  | none => do
    notifyAllowed i.signal.symbol i r.risks
    Act.ofExcept (decide i.signal
      [("verdict", .text Verdict.admitted.word), ("timestamp", timestamp)])

/-- The decision on a signal at the current price and time.  The registry stays as it is during an
evaluation: no check and no callback registers a risk or tracks a position. -/
def evaluate (r : Registry σ) (signal : Signal) (price timestamp : Value) :
    Act σ Decision := do
  let i ← Act.ofExcept (r.inspectAt (← Act.stack).current signal price timestamp)
  r.judge i (timestampFor signal timestamp)

end Registry

end TradeGate
