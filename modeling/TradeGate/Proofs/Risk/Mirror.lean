import TradeGate.Proofs.Risk.PriceGates
import TradeGate.Proofs.Risk.Soundness

/-!
# Mirrored trades

A long trade and a short one at the same open price are mirror images if their targets, and their
stops, lie opposite each other about the open price.  Then their exact rewards and risks are the
same numbers, so each gate lets both pass or neither, also where the arithmetic rounds or stops;
and the first gate that objects is the same.
-/

namespace TradeGate

open Decimal

variable {σ : Type}

/-! ### Mirror images -/

/-- A long trade and a short one whose prices lie opposite each other about the open price. -/
structure Signal.Mirrors (long short : Signal) (o : Decimal) : Prop where
  long_side : long.side = .long
  short_side : short.side = .short
  long_open : long.openPrice = some o
  short_open : short.openPrice = some o
  takeProfit : short.takeProfit.value = 2 * o.value - long.takeProfit.value
  stopLoss : short.stopLoss.value = 2 * o.value - long.stopLoss.value

/-- Mirror images have the same reward and the same risk. -/
theorem Signal.Mirrors.sameNumbers
    {long short : Signal} {o : Decimal} (h : long.Mirrors short o) :
  Figure.SameNumbers long o short o
  where
  openPrice := rfl
  reward := by
    simp only [reward, h.long_side, h.short_side, h.takeProfit]
    ring
  risk := by
    simp only [risk, h.long_side, h.short_side, h.stopLoss]
    ring

/-! ### Gates that agree -/

namespace GateConfig

/-- Where every gate objects to both of two signals or to neither, the first gate that objects is
the same. -/
theorem firstObjection?_agree
    {i i' : Inspection} {gates : List (Profile × Gate)}
    (h : ∀ p ∈ gates, p.2.objection? i' = none ↔ p.2.objection? i = none) :
  (firstObjection? i' gates).map Prod.fst = (firstObjection? i gates).map Prod.fst
  := by
  induction gates with
  | nil => rfl
  | cons p gates ih =>
    obtain ⟨hp, hgates⟩ := List.forall_mem_cons.mp h
    cases hown : p.2.objection? i with
    | none =>
      have hnone := hp.mpr hown
      simpa [firstObjection?, hown, hnone] using ih hgates
    | some own =>
      obtain ⟨own', hown'⟩ := Option.ne_none_iff_exists'.mp fun hnone =>
        Option.some_ne_none own (hown.symm.trans (hp.mp hnone))
      simp [firstObjection?, hown, hown']

/-- So are the verdict and the name of the risk. -/
theorem decisionOn_agree
    {c : GateConfig} {i i' : Inspection}
    (h : ∀ p ∈ c.gates, p.2.objection? i' = none ↔ p.2.objection? i = none) :
  (c.decisionOn i').verdict = (c.decisionOn i).verdict
    ∧ (c.decisionOn i').riskName = (c.decisionOn i).riskName
  := by
  have hfirst := firstObjection?_agree h
  unfold decisionOn
  generalize firstObjection? i c.gates = first at hfirst ⊢
  generalize firstObjection? i' c.gates = first' at hfirst ⊢
  obtain _ | ⟨q, reason⟩ := first <;> obtain _ | ⟨q', reason'⟩ := first'
  · exact ⟨rfl, rfl⟩
  · cases hfirst
  · cases hfirst
  · obtain rfl : q' = q := Option.some.inj hfirst
    exact ⟨rfl, rfl⟩

end GateConfig

/-- A gate lets both of two mirror images pass, among the same number of open positions, or
neither. -/
theorem Gate.objection?_mirrored
    {i i' : Inspection} {o : Decimal} (hs : i.signal.IsFinite) (hs' : i'.signal.IsFinite)
    (h : i.signal.Mirrors i'.signal o) (hcount : i'.openCount = i.openCount) (g : Gate) :
  g.objection? i' = none ↔ g.objection? i = none
  := by
  have hfigure (q : Figure) (m : Decimal) :=
    h.sameNumbers.objection?_eq_none_iff (q := q) (m := m) hs h.long_open hs' h.short_open
  cases g with
  | rewardRisk m => exact hfigure .ratio m
  | stopDistance m => exact hfigure .distance m
  | maxPositions limit => simp only [objection?, judge, hcount]

/-! ### Evaluations of mirror images -/

namespace Registry

/-- Two mirror images get the same verdict, in the name of the same risk, among the same open
positions: under every registry of a configuration, and whatever the current prices, the frames
and the times are.  There is no verdict on either of them exactly where no inspection can be
made. -/
theorem mirrored_signals_share_verdict
    {c : GateConfig} {r : Registry σ} (hr : ofConfig c = .ok r)
    (positions : List (String × OpenPosition)) {long short : Signal} {o : Decimal}
    (hlong : long.IsFinite) (hshort : short.IsFinite) (h : long.Mirrors short o)
    (stack stack' : Stack) (price timestamp price' timestamp' : Value) (s s' : σ) :
  (CanInspect stack.current price timestamp → CanInspect stack'.current price' timestamp' →
    ∃ d d',
      (evaluate { r with positions := positions } long price timestamp).outcome stack s
        = (.ok d, s)
      ∧ (evaluate { r with positions := positions } short price' timestamp').outcome stack' s'
        = (.ok d', s')
      ∧ d'.verdict = d.verdict ∧ d'.riskName = d.riskName)
  ∧ (¬ CanInspect stack.current price timestamp →
    ∃ e e',
      (evaluate { r with positions := positions } long price timestamp).outcome stack s
        = (.error e, s)
      ∧ (evaluate { r with positions := positions } short price timestamp).outcome stack s
        = (.error e', s))
  := by
  have hrisks : ({ r with positions := positions } : Registry σ).risks = Risk.ofConfig c := by
    rw [← risks_ofConfig hr]
  constructor
  · intro hcan hcan'
    obtain ⟨i, hi, hd⟩ := exists_decisionOn hrisks long hcan s
    obtain ⟨i', hi', hd'⟩ := exists_decisionOn hrisks short hcan' s'
    obtain ⟨p, -, -, hsignal, hcount⟩ := inspectAt_eq_ok hi
    obtain ⟨p', -, -, hsignal', hcount'⟩ := inspectAt_eq_ok hi'
    rw [Signal.withOpenPrice_of_some p h.long_open] at hsignal
    rw [Signal.withOpenPrice_of_some p' h.short_open] at hsignal'
    use c.decisionOn i, c.decisionOn i', hd, hd'
    apply GateConfig.decisionOn_agree
    intro p _
    apply Gate.objection?_mirrored (hsignal ▸ hlong) (hsignal' ▸ hshort) (hsignal ▸ hsignal' ▸ h)
    rw [hcount, hcount']
  · intro hcan
    obtain ⟨e, he⟩ := exists_fault hrisks long hcan s
    obtain ⟨e', he'⟩ := exists_fault hrisks short hcan s
    use e, e', he, he'

/-- A long trade at zero whose reward is beyond the range of results. -/
def beyondRange : Signal :=
  ⟨"BTC", .long, .finite false 1 1000000, .ofInt (-1), some .zero, none, ""⟩

/-- Its mirror image. -/
def beyondRangeBelow : Signal :=
  ⟨"ETH", .short, .finite true 1 1000000, .ofInt 1, some .zero, none, "mirrored"⟩

/-- The operations on both of them stop, and both are rejected by the gate for the ratio. -/
theorem mirrored_signals_share_verdict_beyondRange :
  ∃ (r : Registry Unit) (d d' : Decision), ofConfig .default = .ok r
    ∧ beyondRange.Mirrors beyondRangeBelow .zero
    ∧ (evaluate r beyondRange (.decimal .zero) .null).outcome [] () = (.ok d, ())
    ∧ (evaluate r beyondRangeBelow (.decimal (.ofInt 5)) .null).outcome [] () = (.ok d', ())
    ∧ d'.verdict = .rejected ∧ d'.riskName = some "reward_risk"
  := by
  let r : Registry Unit := ⟨Risk.ofConfig .default, []⟩
  have hr : ofConfig .default = .ok r := rfl
  have hmirrors : beyondRange.Mirrors beyondRangeBelow .zero := by
    refine ⟨rfl, rfl, rfl, rfl, ?_, ?_⟩
    · simp [beyondRange, beyondRangeBelow, value_zero]
    · simp [beyondRange, beyondRangeBelow, value_zero]
  have hfinite : beyondRange.IsFinite := by
    refine ⟨rfl, rfl, ?_⟩
    rintro o ⟨rfl⟩
    rfl
  have hfinite' : beyondRangeBelow.IsFinite := by
    refine ⟨rfl, rfl, ?_⟩
    rintro o ⟨rfl⟩
    rfl
  have hcan (n : Int) : CanInspect (Stack.current []) (.decimal (.ofInt n)) .null := by
    refine ⟨⟨.ofInt n, rfl, rfl⟩, ?_, ⟨"", rfl⟩, ⟨"", rfl⟩, ⟨"", rfl⟩, ⟨false, rfl⟩⟩
    rintro ⟨⟩
  obtain ⟨d, d', hd, hd', hverdict, hname⟩ := (mirrored_signals_share_verdict hr [] hfinite
    hfinite' hmirrors [] [] (.decimal .zero) .null (.decimal (.ofInt 5)) .null () ()).1
    (hcan 0) (hcan 5)
  have hrejected : ((evaluate r beyondRange (.decimal .zero) .null).outcome [] ()).1.toOption.map
      (fun d => (d.verdict, d.riskName)) = some (.rejected, some "reward_risk") := by
    decide +kernel
  have hd₀ : (evaluate r beyondRange (.decimal .zero) .null).outcome [] () = (.ok d, ()) := hd
  rw [hd₀] at hrejected
  obtain ⟨hv, hn⟩ := Prod.mk.inj (Option.some.inj hrejected)
  exact ⟨r, d, d', hr, hmirrors, hd, hd', hverdict.trans hv, hname.trans hn⟩

end Registry

end TradeGate
