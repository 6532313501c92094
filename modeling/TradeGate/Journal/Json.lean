import TradeGate.Binary.Layout
import TradeGate.Journal.Basic

/-!
# The journal as a document

A journal is written as a JSON document: its figures, the rejections of every risk, and
the rows.  Items stand on lines of their own, indented by two spaces for each level; an
empty list or record is written without a line break.  Decimals are written as floats,
and a float that is not finite as null.
-/

namespace TradeGate

namespace Json

/-- A character inside a JSON text. -/
def escape (c : Char) : List Char :=
  if c = '"' then ['\\', '"']
  else if c = '\\' then ['\\', '\\']
  else if c = '\n' then ['\\', 'n']
  else if c = '\r' then ['\\', 'r']
  else if c = '\t' then ['\\', 't']
  else if c.toNat = 8 then ['\\', 'b']
  else if c.toNat = 12 then ['\\', 'f']
  else if c.toNat < 32 then '\\' :: 'u' :: Text.hexDigits 4 c.toNat
  else [c]

/-- A JSON text. -/
def quote (s : String) : String :=
  String.ofList ('"' :: s.toList.flatMap escape ++ ['"'])

/-- A JSON number for a float, null where it is not finite. -/
def ofFloat (x : Float) : String :=
  (Binary.Layout.journal.finite? x).getD "null"

/-- The blanks at the begin of a line. -/
def indent (level : Nat) : String :=
  String.ofList (List.replicate (2 * level) ' ')

/-- Items on lines of their own between two brackets. -/
def block (opening closing : String) (level : Nat) (items : List String) : String :=
  if items.isEmpty then opening ++ closing
  else
    opening ++ "\n"
      ++ String.intercalate ",\n" (items.map fun i => indent (level + 1) ++ i)
      ++ "\n" ++ indent level ++ closing

/-- The smallest whole number that can be written. -/
def minInteger : Int := -9223372036854775808

/-- The largest whole number that can be written. -/
def maxInteger : Int := 18446744073709551615

/-- The deepest nesting that is written. -/
def maxDepth : Nat := 254

/-- The fault of a value that has no written form. -/
def unwritable (v : Value) : Fault := .wrongKind "a writable value" v.kindName

mutual

/-- The written form of a value at a level of nesting. -/
def write (level : Nat) : Value → Except Fault String
  | .null => .ok "null"
  | .bool b => .ok (if b then "true" else "false")
  | .int n =>
    if minInteger ≤ n ∧ n ≤ maxInteger then .ok (toString n) else .error (unwritable (.int n))
  | .float x => .ok (ofFloat x)
  | .decimal d =>
    match Binary.ofDecimal? d with
    | some x => .ok (ofFloat x)
    | none => .error (unwritable (.decimal d))
  | .text s => .ok (quote s)
  | .broken s => .error (unwritable (.broken s))
  | .bytes bs => .error (unwritable (.bytes bs))
  | .instant t => .ok (quote (t.textWith "T" Instant.offsetInMinutes))
  | .list items =>
    if maxDepth < level then .error (unwritable (.list []))
    else (writeItems (level + 1) items).map (block "[" "]" level)
  | .record fields =>
    if maxDepth < level then .error (unwritable (.record []))
    else (writeFields (level + 1) fields).map (block "\x7b" "\x7d" level)

def writeItems (level : Nat) : List Value → Except Fault (List String)
  | [] => .ok []
  | v :: rest => do
    let s ← write level v
    let more ← writeItems level rest
    return s :: more

def writeFields (level : Nat) : List (String × Value) → Except Fault (List String)
  | [] => .ok []
  | (k, v) :: rest => do
    let s ← write level v
    let more ← writeFields level rest
    return (quote k ++ ": " ++ s) :: more

end

end Json

/-- A row by the names of its fields. -/
def JournalRow.toFields (r : JournalRow) : Fields :=
  [("symbol", .text r.symbol), ("verdict", .text r.verdict.word),
    ("risk_name", Fields.entry .text r.riskName), ("reason", Fields.entry .text r.reason),
    ("position", .text r.side.word), ("price_open", Fields.entry .decimal r.openPrice),
    ("price_take_profit", .decimal r.takeProfit), ("price_stop_loss", .decimal r.stopLoss),
    ("timestamp", Fields.entry .instant r.timestamp), ("strategy_name", r.strategy),
    ("exchange_name", r.exchange), ("frame_name", r.frameName), ("mode", .text r.mode)]

/-- The figures by name. -/
def JournalSummary.toFields (s : JournalSummary) : Fields :=
  [("total", .int s.total), ("admitted", .int s.admitted), ("rejected", .int s.rejected),
    ("rejection_rate", .float s.rate)]

namespace Journal

/-- The document of a journal, which needs a name for every risk that rejected. -/
def document (j : Journal) : Except Fault String := do
  let byRisk ← j.countByRisk.mapM fun (name, n) =>
    match name with
    | some s => .ok (s, Value.int n)
    | none => .error (Json.unwritable .null)
  Json.write 0 (.record
    [("summary", .record (j.summary .null).toFields), ("by_risk", .record byRisk),
      ("decisions", .list (j.rows.map fun r => .record r.toFields))])

end Journal

end TradeGate
