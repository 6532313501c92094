import TradeGate.Value

/-!
# Execution frames

A frame names the strategy run that is executing: strategy, exchange and frame name, and
whether the run is a backtest.  The frames of nested runs form a stack, a list from the
innermost outwards; code that runs under the stack sees its head, or the empty frame
where no run is active.
-/

namespace TradeGate

/-- The identity of a strategy run.  The fields are of any kind. -/
structure Frame where
  strategy : Value
  exchange : Value
  name : Value
  backtest : Value
deriving Repr, Inhabited

/-- The frames of the active runs, innermost first. -/
abbrev Stack := List Frame

namespace Frame

/-- The frame of code outside every run. -/
def empty : Frame := ⟨.text "", .text "", .text "", .bool false⟩

/-- Whether the run is a backtest or live. -/
def mode (f : Frame) : String :=
  if f.backtest.truth then "backtest" else "live"

/-- Whether none of the names is set. -/
def isEmpty (f : Frame) : Bool :=
  !(f.strategy.truth || f.exchange.truth || f.name.truth)

/-- Whether two frames have the same fields, compared in order up to the first that
differs. -/
def same (f g : Frame) : Except Decimal.Trap Bool :=
  Value.sameItems [f.strategy, f.exchange, f.name, f.backtest]
    [g.strategy, g.exchange, g.name, g.backtest]

/-- The names that a frame's fields are given under. -/
def fieldNames : List String :=
  ["strategy_name", "exchange_name", "frame_name", "backtest", "parent"]

/-- The frame with given fields, nothing where a field has another name.  An enclosing
frame may be named but does not count: the stack decides. -/
def ofFields? (fields : List (String × Value)) : Option Frame :=
  if fields.all fun f => fieldNames.contains f.1 then
    let get (name : String) (default : Value) := (Value.lookup name fields).getD default
    some ⟨get "strategy_name" (.text ""), get "exchange_name" (.text ""),
      get "frame_name" (.text ""), get "backtest" (.bool false)⟩
  else none

/-- The frame that a value describes: a record of its fields. -/
def ofValue? : Value → Option Frame
  | .record fields => ofFields? fields
  | _ => none

/-- The fields of a frame by name. -/
def toFields (f : Frame) : List (String × Value) :=
  [("strategy_name", f.strategy), ("exchange_name", f.exchange), ("frame_name", f.name),
    ("backtest", f.backtest)]

/-- The written form of a frame. -/
def form (f : Frame) : String :=
  "ExecutionFrame(strategy_name=" ++ f.strategy.form ++ ", exchange_name=" ++ f.exchange.form
    ++ ", frame_name=" ++ f.name.form ++ ", backtest=" ++ f.backtest.form ++ ")"

/-- The cache key of a symbol under a frame: strategy, exchange, mode and symbol joined
by colons. -/
def cacheKey (f : Frame) (symbol : Value) : String :=
  f.strategy.plain ++ ":" ++ f.exchange.plain ++ ":" ++ f.mode ++ ":" ++ symbol.plain

@[simp]
theorem ofFields?_toFields
    (f : Frame) :
  ofFields? f.toFields = some f
  := by
  simp [ofFields?, toFields, fieldNames, Value.lookup]

end Frame

namespace Stack

/-- The frame that code under the stack sees. -/
def current (s : Stack) : Frame :=
  s.head?.getD .empty

/-- The number of frames below the current one. -/
def depth (s : Stack) : Nat :=
  s.length - 1

@[simp]
theorem current_cons
    (f : Frame) (s : Stack) :
  current (f :: s) = f
  := rfl

end Stack

end TradeGate
