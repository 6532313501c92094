import TradeGate.Fault
import TradeGate.Frame
import TradeGate.Market.Decision

/-!
# The journal of decisions

A journal keeps one row for every recorded decision, tagged with the frame that it was
made under.  It answers three queries: the rejected rows of a symbol, the number of
rejections of every risk, and the figures of a symbol or of the whole journal.
-/

namespace TradeGate

/-- A recorded decision with the names of its frame. -/
structure JournalRow where
  symbol : String
  verdict : Verdict
  riskName : Option String
  reason : Option String
  side : Side
  openPrice : Option Decimal
  takeProfit : Decimal
  stopLoss : Decimal
  timestamp : Option Instant
  strategy : Value
  exchange : Value
  frameName : Value
  mode : String
deriving Repr, Inhabited

/-- The rows in the order of their recording. -/
structure Journal where
  rows : List JournalRow
deriving Repr, Inhabited

/-- The figures of some rows. -/
structure JournalSummary where
  total : Nat
  admitted : Nat
  rejected : Nat
deriving Repr, DecidableEq, Inhabited

/-- The share of the rejected among all rows, zero where there are none. -/
def JournalSummary.rate (s : JournalSummary) : Float :=
  if s.total = 0 then 0.0 else Float.ofNat s.rejected / Float.ofNat s.total

namespace JournalRow

/-- The row of a decision under a frame. -/
def ofDecision (d : Decision) (f : Frame) : JournalRow where
  symbol := d.signal.symbol
  verdict := d.verdict
  riskName := d.riskName
  reason := d.reason
  side := d.signal.side
  openPrice := d.signal.openPrice
  takeProfit := d.signal.takeProfit
  stopLoss := d.signal.stopLoss
  timestamp := d.timestamp
  strategy := f.strategy
  exchange := f.exchange
  frameName := f.name
  mode := f.mode

/-- Whether the decision was a rejection. -/
def isRejection (r : JournalRow) : Bool :=
  r.verdict == .rejected

/-- Whether the row is of the symbol that is asked for, if one is. -/
def ofSymbol (symbol : Value) (r : JournalRow) : Bool :=
  match symbol with
  | .null => true
  | .text s => s == r.symbol
  | _ => false

end JournalRow

namespace Journal

def empty : Journal := ⟨[]⟩

/-- Appends the row of a decision under a frame. -/
def record (j : Journal) (d : Decision) (f : Frame) : Journal :=
  ⟨j.rows ++ [.ofDecision d f]⟩

/-- The frame that a decision is tagged with: one that is given, or else the current
one.  A value that is no frame but counts as true cannot be used. -/
def frameFor (given : Value) (current : Frame) : Except Fault Frame :=
  if given.truth then .error (.noAttribute given.kindName "strategy_name") else .ok current

/-- The rejected rows, of one symbol if it is given. -/
def rejections (j : Journal) (symbol : Value) : List JournalRow :=
  j.rows.filter fun r => r.isRejection && r.ofSymbol symbol

/-- The list of counts with one more for a name. -/
def countOne (name : Option String) :
    List (Option String × Nat) → List (Option String × Nat)
  | [] => [(name, 1)]
  | (k, n) :: rest => if k = name then (k, n + 1) :: rest else (k, n) :: countOne name rest

/-- The number of rejections of every risk, in the order of their first rejection. -/
def countByRisk (j : Journal) : List (Option String × Nat) :=
  (j.rejections .null).foldl (fun counts r => countOne r.riskName counts) []

/-- The figures of the rows of one symbol, or of all rows. -/
def summary (j : Journal) (symbol : Value) : JournalSummary :=
  let rows := j.rows.filter (JournalRow.ofSymbol symbol)
  let rejected := rows.countP JournalRow.isRejection
  ⟨rows.length, rows.length - rejected, rejected⟩

theorem rows_record
    (j : Journal) (d : Decision) (f : Frame) :
  (j.record d f).rows = j.rows ++ [.ofDecision d f]
  := rfl

end Journal

end TradeGate
