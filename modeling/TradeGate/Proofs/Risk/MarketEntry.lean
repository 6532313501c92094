import TradeGate.Proofs.Risk.PriceGates
import TradeGate.Proofs.Risk.Soundness

/-!
# Entry at the market

A signal without an open price enters at the market: the evaluation takes the current price for
its open price.  The inspection also carries the current price itself, but no gate reads it.  So
a signal is decided on as one that has the current price for its open price, at whatever price
this one is evaluated; and there is always an open price for the gates to read.
-/

namespace TradeGate

open Decimal

variable {σ : Type}

namespace Signal

theorem timestamp_withOpenPrice
    (s : Signal) (p : Decimal) :
  (s.withOpenPrice p).timestamp = s.timestamp
  := by
  unfold withOpenPrice
  cases s.openPrice <;> rfl

theorem IsFinite.withOpenPrice
    {s : Signal} (hs : s.IsFinite) {p : Decimal} (hp : p.isFinite = true) :
  (s.withOpenPrice p).IsFinite
  := by
  unfold Signal.withOpenPrice
  cases hopen : s.openPrice with
  | some o => exact hs
  | none =>
    refine ⟨hs.takeProfit, hs.stopLoss, ?_⟩
    rintro o ⟨rfl⟩
    exact hp

end Signal

/-! ### What a decision reads -/

/-- A gate reads the signal and the number of open positions. -/
theorem Gate.objection?_congr
    {i i' : Inspection} (hsignal : i'.signal = i.signal) (hcount : i'.openCount = i.openCount)
    (g : Gate) :
  g.objection? i' = g.objection? i
  := by
  cases g <;> simp only [objection?, judge, hsignal, hcount]

/-- A decision reads the time of the inspection too, and nothing else. -/
theorem GateConfig.decisionOn_congr
    {i i' : Inspection} (hsignal : i'.signal = i.signal) (hcount : i'.openCount = i.openCount)
    (htime : i'.timestamp = i.timestamp) (c : GateConfig) :
  c.decisionOn i' = c.decisionOn i
  := by
  have hfirst : firstObjection? i' c.gates = firstObjection? i c.gates := by
    simp only [firstObjection?, Gate.objection?_congr hsignal hcount]
  rw [decisionOn, decisionOn, hfirst, hsignal, htime]

namespace Registry

variable {c : GateConfig} {r : Registry σ} {s s' : Signal} {p q : Decimal}
  {price price' : Value}

/-- Evaluations of signals that are the same with their open prices end alike, at whatever finite
prices they are evaluated. -/
theorem outcome_evaluate_congr
    (hr : r.risks = Risk.ofConfig c) (hp : priceOf price = .ok p) (hq : priceOf price' = .ok q)
    (hpfinite : p.isFinite = true) (hqfinite : q.isFinite = true)
    (h : s'.withOpenPrice q = s.withOpenPrice p) (timestamp : Value) (stack : Stack) (w : σ) :
  (r.evaluate s' price' timestamp).outcome stack w = (r.evaluate s price timestamp).outcome stack w
  := by
  have htime : timestampFor s' timestamp = timestampFor s timestamp := by
    rw [timestampFor, timestampFor, ← s.timestamp_withOpenPrice p, ← h,
      s'.timestamp_withOpenPrice q]
  rw [outcome_evaluate_ofConfig hr, outcome_evaluate_ofConfig hr, inspectAt_of_price hp,
    inspectAt_of_price hq, htime, inspect_eq_map hpfinite hqfinite]
  congr 1
  cases hi : r.inspect stack.current s p (timestampFor s timestamp) with
  | error e => rfl
  | ok i =>
    have hsignal : s.withOpenPrice p = i.signal := (inspect_eq_ok.mp hi).2.2.2.2.2.2.2.2.1
    have hdecision : c.decisionOn { i with
          symbol := s'.symbol, signal := s'.withOpenPrice q, currentPrice := q }
        = c.decisionOn i := by
      apply GateConfig.decisionOn_congr
      · exact h.trans hsignal
      · rfl
      · rfl
    exact congrArg Except.ok hdecision

/-- A signal without an open price is decided on as one whose open price is the current one, at
whatever price this one is evaluated; so the current price does not matter to a signal that has an
open price.  No price gate is skipped: the decision is that of the gates on an inspection whose
signal has an open price, and a price gate lets it pass exactly if the figure at this price is
computed and not below the minimum. -/
theorem market_entry_is_entry_at_price
    {c : GateConfig} {r : Registry σ} (hr : ofConfig c = .ok r)
    (positions : List (String × OpenPosition)) {signal : Signal} (hs : signal.IsFinite)
    {price price' : Value} {p q : Decimal} (hp : priceOf price = .ok p)
    (hq : priceOf price' = .ok q) (hpfinite : p.isFinite = true) (hqfinite : q.isFinite = true)
    (timestamp : Value) (stack : Stack) (w : σ) :
  (signal.openPrice = none →
    (evaluate { r with positions := positions } { signal with openPrice := some p } price'
        timestamp).outcome stack w
      = (evaluate { r with positions := positions } signal price timestamp).outcome stack w)
  ∧ (signal.openPrice.isSome = true →
    (evaluate { r with positions := positions } signal price' timestamp).outcome stack w
      = (evaluate { r with positions := positions } signal price timestamp).outcome stack w)
  ∧ (CanInspect stack.current price timestamp →
    ∃ i, inspectAt { r with positions := positions } stack.current signal price timestamp = .ok i
      ∧ (evaluate { r with positions := positions } signal price timestamp).outcome stack w
        = (.ok (c.decisionOn i), w)
      ∧ i.signal.openPrice = some (signal.openPrice.getD p)
      ∧ ∀ (f : Figure) (m : Decimal), (f.gate m).objection? i = none
        ↔ ∃ x, f.Computes i.signal (signal.openPrice.getD p) x ∧ x.less m = .ok false)
  := by
  have hrisks : ({ r with positions := positions } : Registry σ).risks = Risk.ofConfig c := by
    rw [← risks_ofConfig hr]
  refine ⟨?_, ?_, ?_⟩
  · intro hnone
    apply outcome_evaluate_congr hrisks hp hq hpfinite hqfinite
    rw [Signal.withOpenPrice_of_some (o := p) q rfl, Signal.withOpenPrice, hnone]
  · intro hsome
    obtain ⟨o, ho⟩ := Option.isSome_iff_exists.mp hsome
    apply outcome_evaluate_congr hrisks hp hq hpfinite hqfinite
    rw [Signal.withOpenPrice_of_some q ho, Signal.withOpenPrice_of_some p ho]
  · intro hcan
    obtain ⟨i, hi, hd⟩ := exists_decisionOn hrisks signal hcan w
    obtain ⟨p', hp', -, hsignal, -⟩ := inspectAt_eq_ok hi
    obtain rfl : p' = p := Except.ok.inj (hp'.symm.trans hp)
    have hopen : i.signal.openPrice = some (signal.openPrice.getD p') := by
      rw [hsignal, Signal.openPrice_withOpenPrice]
    refine ⟨i, hi, hd, hopen, fun f m => ?_⟩
    exact Figure.objection?_eq_none_iff (hsignal ▸ hs.withOpenPrice hpfinite) hopen

/-- A short trade at the market. -/
def sellAtMarket : Signal :=
  ⟨"BTC", .short, .ofInt 90, .ofInt 105, none, none, "breakout"⟩

/-- Sold at 100, and not at the price at which the second evaluation is made. -/
theorem market_entry_is_entry_at_price_sellAtMarket :
  ∃ (r : Registry Unit) (d : Decision), ofConfig .default = .ok r
    ∧ (evaluate r sellAtMarket (.decimal (.ofInt 100)) .null).outcome [] () = (.ok d, ())
    ∧ (evaluate r { sellAtMarket with openPrice := some (.ofInt 100) }
      (.decimal (.ofInt 120)) .null).outcome [] () = (.ok d, ())
    ∧ d.verdict = .admitted
    ∧ d.signal.openPrice = some (.ofInt 100)
  := by
  let r : Registry Unit := ⟨Risk.ofConfig .default, []⟩
  have hr : ofConfig .default = .ok r := rfl
  have hfinite : sellAtMarket.IsFinite := by
    refine ⟨rfl, rfl, ?_⟩
    rintro o ⟨⟩
  have hp : priceOf (.decimal (.ofInt 100)) = .ok (.ofInt 100) := rfl
  have hq : priceOf (.decimal (.ofInt 120)) = .ok (.ofInt 120) := rfl
  obtain ⟨hentry, -, -⟩ :=
    market_entry_is_entry_at_price hr [] hfinite hp hq rfl rfl .null [] ()
  have hadmitted : ((evaluate r sellAtMarket (.decimal (.ofInt 100)) .null).outcome []
      ()).1.toOption.map (fun d => (d.verdict, d.signal.openPrice))
        = some (.admitted, some (.ofInt 100)) := by
    decide +kernel
  rcases h : (evaluate r sellAtMarket (.decimal (.ofInt 100)) .null).outcome [] () with ⟨e | d, w⟩
  · rw [h] at hadmitted
    cases hadmitted
  · rw [h] at hadmitted
    obtain ⟨hverdict, hopen⟩ := Prod.mk.inj (Option.some.inj hadmitted)
    exact ⟨r, d, hr, h, (hentry rfl).trans h, hverdict, hopen⟩

end Registry

end TradeGate
