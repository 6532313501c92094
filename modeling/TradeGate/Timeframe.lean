import TradeGate.Fault

/-!
# Timeframes and windows

A timeframe is one of ten supported candle intervals.  It divides time into windows that
begin at multiples of the interval since the epoch; the window of an instant is the
latest one that begins no later.
-/

namespace TradeGate

/-- A supported candle interval. -/
inductive Timeframe where
  | m1 | m3 | m5 | m15 | m30 | h1 | h2 | h4 | h6 | h8
deriving DecidableEq, Repr, Inhabited

namespace Timeframe

/-- The timeframes in increasing order. -/
def all : List Timeframe :=
  [m1, m3, m5, m15, m30, h1, h2, h4, h6, h8]

/-- The number of minutes of an interval. -/
def minutes : Timeframe → Nat
  | m1 => 1
  | m3 => 3
  | m5 => 5
  | m15 => 15
  | m30 => 30
  | h1 => 60
  | h2 => 120
  | h4 => 240
  | h6 => 360
  | h8 => 480

/-- The token of a timeframe: minutes up to half an hour, then hours. -/
def token (t : Timeframe) : String :=
  if t.minutes < 60 then toString t.minutes ++ "m" else toString (t.minutes / 60) ++ "h"

/-- The tokens of all timeframes in increasing order. -/
def tokens : List String := all.map token

/-- The timeframe with a given token. -/
def ofToken? (s : String) : Option Timeframe :=
  all.find? fun t => t.token == s

/-- The length of an interval in milliseconds. -/
def millis (t : Timeframe) : Int :=
  t.minutes * 60 * 1000

/-- The timeframe that a value denotes. -/
def ofValue (v : Value) : Except Fault Timeframe :=
  if v.isKey then
    match (match v with
      | .text s => ofToken? s
      | _ => none) with
    | some t => .ok t
    | none =>
      .error (.badValue ("Unknown cache interval '" ++ v.plain ++ "'. Available: "
        ++ String.intercalate ", " tokens))
  else .error (.notKey v.kindName)

theorem mem_all
    (t : Timeframe) :
  t ∈ all
  := by
  cases t <;> decide

theorem millis_pos
    (t : Timeframe) :
  0 < t.millis
  := by
  cases t <;> decide

@[simp]
theorem ofToken?_token
    (t : Timeframe) :
  ofToken? t.token = some t
  := by
  cases t <;> decide +kernel

end Timeframe

/-- The begin of the window of length `step` around `now`; `step` has any sign. -/
def windowStart (now step : Int) : Except Fault Int :=
  if step = 0 then .error (.zeroDivision "integer division or modulo by zero")
  else .ok (Int.fdiv now step * step)

/-- The window of a timeframe that contains a time in milliseconds. -/
def Timeframe.window (t : Timeframe) (now : Int) : Int :=
  Int.fdiv now t.millis * t.millis

theorem windowStart_millis
    (t : Timeframe) (now : Int) :
  windowStart now t.millis = .ok (t.window now)
  := by
  have := t.millis_pos
  simp [windowStart, Timeframe.window, Int.ne_of_gt this]

/-- A window begins at a multiple of the interval. -/
theorem Timeframe.dvd_window
    (t : Timeframe) (now : Int) :
  t.millis ∣ t.window now
  := Int.dvd_mul_left _ _

/-- A window contains the times that it is taken for. -/
theorem Timeframe.window_le
    (t : Timeframe) (now : Int) :
  t.window now ≤ now ∧ now < t.window now + t.millis
  := by
  have hpos := t.millis_pos
  have hdiv : Int.fdiv now t.millis = now / t.millis :=
    Int.fdiv_eq_ediv_of_nonneg _ (Int.le_of_lt hpos)
  have h1 := Int.mul_ediv_add_emod now t.millis
  have h2 := Int.emod_nonneg now (Int.ne_of_gt hpos)
  have h3 := Int.emod_lt_of_pos now hpos
  unfold Timeframe.window
  rw [hdiv, Int.mul_comm]
  omega

end TradeGate
