import TradeGate.Proofs.Risk.Decisions

/-!
# Soundness of admission

A signal is admitted exactly if all gates of the configuration have reached a verdict and let it
pass, and then its prices keep the limits of the configuration.
-/

namespace TradeGate

variable {σ : Type}

/-! ### Admissions -/

namespace Registry

variable {c : GateConfig} {r : Registry σ} {signal : Signal} {price timestamp : Value}
  {stack : Stack} {s s' : σ} {d : Decision}

/-- An evaluation that ends with a decision has inspected the signal. -/
theorem exists_inspectAt
    (h : (r.evaluate signal price timestamp).outcome stack s = (.ok d, s')) :
  ∃ i, r.inspectAt stack.current signal price timestamp = .ok i
  := by
  simp only [evaluate, Act.outcome_bind, Act.outcome_stack, Act.outcome_ofExcept] at h
  cases hi : r.inspectAt stack.current signal price timestamp with
  | error e =>
    rw [hi] at h
    cases h
  | ok i => exact ⟨i, rfl⟩

/-- A signal is admitted if and only if every gate of every enabled profile has reached a
verdict on it and lets it pass. -/
theorem admitted_iff_gates_pass
    (hr : r.risks = Risk.ofConfig c)
    (h : (r.evaluate signal price timestamp).outcome stack s = (.ok d, s')) {i : Inspection}
    (hi : r.inspectAt stack.current signal price timestamp = .ok i) :
  d.verdict = .admitted
    ↔ ∀ q ∈ c.enabledProfiles, ∀ g ∈ Gate.ofProfile q, ∃ f, g.judge i = .ok f ∧ f.isPass = true
  := by
  rw [outcome_evaluate_ofConfig hr, hi] at h
  cases h
  exact GateConfig.decisionOn_admitted_iff

/-- What an evaluation inspects: the signal with its open price, among the open positions.  The
current price is finite. -/
theorem inspectAt_eq_ok
    {i : Inspection} (hi : r.inspectAt stack.current signal price timestamp = .ok i) :
  ∃ p, priceOf price = .ok p ∧ p.isFinite = true ∧ i.signal = signal.withOpenPrice p
    ∧ i.openCount = r.openCount
  := by
  obtain ⟨p, hp, hinspect⟩ := exists_inspect_of_inspectAt hi
  obtain ⟨-, ⟨hfinite, rfl⟩, -, -, -, -, -, hcount, hsignal, -⟩ := inspect_eq_ok.mp hinspect
  use i.currentPrice, hp, hfinite, hsignal.symm, hcount.symm

end Registry

/-! ### The limits of a configuration -/

/-- The prices of a signal and the number of open positions keep the limits of a
configuration. -/
structure GateConfig.Allows (c : GateConfig) (s : Signal) (o : Decimal) (count : Nat) :
    Prop where
  /-- The open price lies between the stop loss and the take profit. -/
  sides : s.Brackets o.value
  /-- The number of open positions is below every limit. -/
  count : ∀ q ∈ c.enabledProfiles, 0 < q.maxActivePositions → count < q.maxActivePositions
  /-- Where a distance of the stop loss is asked for, the open price is positive. -/
  price : ∀ q ∈ c.enabledProfiles, q.minStopLossPct.isSome = true → 0 < o.value
  /-- The exact ratio of reward to risk is at most a rounding below every minimum. -/
  ratio : s.RatioKeepsDigits o → ∀ q ∈ c.enabledProfiles, ∀ m ∈ q.minRewardRisk,
    m.value * s.risk o.value * (1 - Decimal.unitRoundoff)
      ≤ s.reward o.value * (1 + Decimal.unitRoundoff) ^ 2
  /-- So is the exact distance of the stop loss. -/
  distance : s.DistanceKeepsDigits o → ∀ q ∈ c.enabledProfiles, ∀ p ∈ q.minStopLossPct,
    p.value * o.value ≤ 100 * s.risk o.value * (1 + Decimal.unitRoundoff) ^ 2

/-! ### Gates at the open price -/

namespace Gate

/-- The gates of a profile, one for each of its limits. -/
theorem mem_ofProfile
    {g : Gate} {q : Profile} :
  g ∈ ofProfile q ↔ (∃ m ∈ q.minRewardRisk, g = rewardRisk m)
    ∨ (∃ p ∈ q.minStopLossPct, g = stopDistance p)
    ∨ 0 < q.maxActivePositions ∧ g = maxPositions (.int q.maxActivePositions)
  := by
  unfold ofProfile
  cases q.minRewardRisk <;> cases q.minStopLossPct <;>
    by_cases hmax : 0 < q.maxActivePositions <;> simp [hmax]

variable {i : Inspection} {s : Signal} {p : Decimal} {f : Finding}

/-- The figures of a signal do not depend on how its open price was found. -/
theorem judge_rewardRisk
    (hi : i.signal = s.withOpenPrice p) {minimum : Decimal}
    (h : (rewardRisk minimum).judge i = .ok f) :
  judgeRatio minimum s (s.openPrice.getD p) = .ok f
  := by
  rw [judge, hi, Signal.openPrice_withOpenPrice] at h
  have h := mapError_eq_ok.mp h
  unfold Signal.withOpenPrice at h
  cases hs : s.openPrice <;> rw [hs] at h <;> exact h

theorem judge_stopDistance
    (hi : i.signal = s.withOpenPrice p) {minimum : Decimal}
    (h : (stopDistance minimum).judge i = .ok f) :
  judgeDistance minimum s (s.openPrice.getD p) = .ok f
  := by
  rw [judge, hi, Signal.openPrice_withOpenPrice] at h
  have h := mapError_eq_ok.mp h
  unfold Signal.withOpenPrice at h
  cases hs : s.openPrice <;> rw [hs] at h <;> exact h

end Gate

namespace GateConfig

variable {c : GateConfig} {s : Signal} {count : Nat}

/-- Figures that pass keep the limits of a configuration, if one of them asks for a positive
ratio of reward to risk. -/
theorem allows_of_figures
    {o : Decimal} (hs : s.IsFinite) (ho : o.isFinite = true)
    (hm : ∃ q ∈ c.enabledProfiles, ∃ m ∈ q.minRewardRisk, 0 < m.value)
    (hratio : ∀ q ∈ c.enabledProfiles, ∀ m ∈ q.minRewardRisk,
      ∃ f, Gate.judgeRatio m s o = .ok f ∧ f.isPass = true)
    (hdistance : ∀ q ∈ c.enabledProfiles, ∀ m ∈ q.minStopLossPct,
      ∃ f, Gate.judgeDistance m s o = .ok f ∧ f.isPass = true)
    (hcount : ∀ q ∈ c.enabledProfiles, 0 < q.maxActivePositions →
      ∃ f, Gate.judgeCount (.int q.maxActivePositions) count = .ok f ∧ f.isPass = true) :
  c.Allows s o count
  := by
  -- the gate with a positive minimum fixes the sides
  have hsides : 0 < s.risk o.value ∧ 0 < s.reward o.value := by
    obtain ⟨q, hq, m, hm, hpos⟩ := hm
    obtain ⟨f, hf, hpassed⟩ := hratio q hq m hm
    obtain ⟨hrisk, hreward⟩ := Gate.judgeRatio_sides hs ho hf hpassed
    exact ⟨hrisk, hreward hpos⟩
  constructor
  case sides => exact (s.brackets_iff _).mpr hsides
  case count =>
    intro q hq hmax
    obtain ⟨f, hf, hpassed⟩ := hcount q hq hmax
    exact Gate.judgeCount_lt hf hpassed
  case price =>
    intro q hq hsome
    obtain ⟨m, hm⟩ := Option.isSome_iff_exists.mp hsome
    obtain ⟨f, hf, hpassed⟩ := hdistance q hq m hm
    exact Gate.judgeDistance_price ho hf hpassed
  case ratio =>
    intro hkeeps q hq m hm
    obtain ⟨f, hf, hpassed⟩ := hratio q hq m hm
    exact Gate.judgeRatio_bound hs ho hf hpassed hkeeps hsides.2
  case distance =>
    intro hkeeps q hq m hm
    obtain ⟨f, hf, hpassed⟩ := hdistance q hq m hm
    exact Gate.judgeDistance_bound hs ho hf hpassed hkeeps hsides.1

/-- A signal that every gate of a configuration lets pass keeps its limits at its open price. -/
theorem allows_of_gates_pass
    {i : Inspection} {p : Decimal} (hs : s.IsFinite) (hp : p.isFinite = true)
    (hm : ∃ q ∈ c.enabledProfiles, ∃ m ∈ q.minRewardRisk, 0 < m.value)
    (hsignal : i.signal = s.withOpenPrice p) (hcount : i.openCount = count)
    (hpass : ∀ q ∈ c.enabledProfiles, ∀ g ∈ Gate.ofProfile q,
      ∃ f, g.judge i = .ok f ∧ f.isPass = true) :
  c.Allows s (s.openPrice.getD p) count
  := by
  have ho : (s.openPrice.getD p).isFinite = true := by
    cases hopen : s.openPrice with
    | none => exact hp
    | some o => exact hs.openPrice o hopen
  apply allows_of_figures hs ho hm
  case hratio =>
    intro q hq m hm
    obtain ⟨f, hf, hpassed⟩ := hpass q hq _ (Gate.mem_ofProfile.mpr (.inl ⟨m, hm, rfl⟩))
    exact ⟨f, Gate.judge_rewardRisk hsignal hf, hpassed⟩
  case hdistance =>
    intro q hq m hm
    obtain ⟨f, hf, hpassed⟩ :=
      hpass q hq _ (Gate.mem_ofProfile.mpr (.inr (.inl ⟨m, hm, rfl⟩)))
    exact ⟨f, Gate.judge_stopDistance hsignal hf, hpassed⟩
  case hcount =>
    intro q hq hmax
    rw [← hcount]
    exact hpass q hq _ (Gate.mem_ofProfile.mpr (.inr (.inr ⟨hmax, rfl⟩)))

end GateConfig

namespace Registry

/-- A signal is admitted exactly if every gate of the configuration has reached a verdict on it
and lets it pass; a gate that fails speaks against it.  What is admitted keeps the limits of the
configuration at its open price, which is its own or else the current one. -/
theorem admission_is_sound
    {c : GateConfig} {r : Registry σ} (hr : ofConfig c = .ok r)
    (hm : ∃ q ∈ c.enabledProfiles, ∃ m ∈ q.minRewardRisk, 0 < m.value)
    (positions : List (String × OpenPosition)) {signal : Signal} (hs : signal.IsFinite)
    (price timestamp : Value) (stack : Stack) (s s' : σ) (d : Decision)
    (h : (evaluate { r with positions := positions } signal price timestamp).outcome stack s
      = (.ok d, s')) :
  ∃ p i, priceOf price = .ok p
    ∧ inspectAt { r with positions := positions } stack.current signal price timestamp = .ok i
    ∧ (d.verdict = .admitted ↔ ∀ q ∈ c.enabledProfiles, ∀ g ∈ Gate.ofProfile q,
      ∃ f, g.judge i = .ok f ∧ f.isPass = true)
    ∧ (d.verdict = .admitted → c.Allows signal (signal.openPrice.getD p) positions.length)
  := by
  have hrisks : ({ r with positions := positions } : Registry σ).risks = Risk.ofConfig c := by
    rw [← risks_ofConfig hr]
  obtain ⟨i, hi⟩ := exists_inspectAt h
  obtain ⟨p, hp, hfinite, hsignal, hcount⟩ := inspectAt_eq_ok hi
  have hadmitted := admitted_iff_gates_pass hrisks h hi
  use p, i, hp, hi, hadmitted
  intro hd
  exact GateConfig.allows_of_gates_pass hs hfinite hm hsignal hcount (hadmitted.mp hd)

/-- A signal with an open price of its own: its reward is twice its risk. -/
def limitOrder : Signal :=
  ⟨"BTC", .long, .ofInt 120, .ofInt 90, some (.ofInt 100), none, ""⟩

theorem admission_is_sound_limitOrder :
  ∃ (r : Registry Unit) (d : Decision) (s' : Unit),
    ofConfig .default = .ok r
    ∧ (∃ q ∈ GateConfig.default.enabledProfiles, ∃ m ∈ q.minRewardRisk, 0 < m.value)
    ∧ limitOrder.IsFinite
    ∧ (evaluate { r with positions := [] } limitOrder (.decimal (.ofInt 99)) .null).outcome [] ()
      = (.ok d, s')
    ∧ d.verdict = .admitted
    ∧ GateConfig.default.Allows limitOrder (.ofInt 100) 0
  := by
  let r : Registry Unit := ⟨Risk.ofConfig .default, []⟩
  have hr : ofConfig .default = .ok r := rfl
  have hm : ∃ q ∈ GateConfig.default.enabledProfiles, ∃ m ∈ q.minRewardRisk, 0 < m.value := by
    use Profile.defaults[0]
    constructor
    · exact List.mem_cons_self
    · use .ofInt 2, rfl
      norm_num [Decimal.value_ofInt]
  have hs : limitOrder.IsFinite := by
    constructor
    · rfl
    · rfl
    · rintro o ⟨rfl⟩
      rfl
  have hadmitted :
      ((evaluate r limitOrder (.decimal (.ofInt 99)) .null).outcome [] ()).1.toOption.map
        Decision.verdict = some .admitted := by
    decide +kernel
  rcases h : (evaluate r limitOrder (.decimal (.ofInt 99)) .null).outcome [] () with ⟨e | d, s'⟩
  · rw [h] at hadmitted
    cases hadmitted
  · rw [h] at hadmitted
    have hd : d.verdict = .admitted := Option.some.inj hadmitted
    obtain ⟨p, i, -, -, -, hallows⟩ := admission_is_sound hr hm [] hs _ _ [] () s' d h
    exact ⟨r, d, s', hr, hm, hs, h, hd, hallows hd⟩

end Registry

end TradeGate
