import TradeGate.Proofs.Risk.Soundness

/-!
# Stricter configurations

A gate is at least as strict as another one of its kind if its minimum is not lower, or its
limit not higher.  A configuration is at least as strict as another one if each gate of the other
one is matched by a gate of its own.  The figure that a gate compares with its threshold does not
depend on the threshold, so a signal that passes the stricter gate passes the other one; and a
signal that the stricter configuration admits is admitted by the other one with the same decision.
-/

namespace TradeGate

variable {σ : Type}

/-- A number that is not below a threshold is not below a lower one.  Nothing is compared with a
not-a-number, and the infinities are at the ends of the order. -/
theorem Decimal.not_less_trans
    {x y z : Decimal} (hxy : x.less y = .ok false) (hyz : y.less z = .ok false) :
  x.less z = .ok false
  := by
  by_cases hfinite : x.isFinite = true ∧ y.isFinite = true ∧ z.isFinite = true
  · obtain ⟨hx, hy, hz⟩ := hfinite
    rw [less_of_finite hx hy] at hxy
    rw [less_of_finite hy hz] at hyz
    rw [less_of_finite hx hz]
    simp only [Except.ok.injEq, decide_eq_false_iff_not, not_lt] at hxy hyz ⊢
    apply hyz.trans hxy
  · cases x <;> cases y <;> cases z <;> simp_all [less, order, order?, isFinite, Except.map]
    case infinity.infinity.infinity s t u =>
      cases s <;> cases t <;> cases u <;> simp_all

/-! ### Gates -/

namespace Gate

/-- A gate is of the kind of another one, and its threshold is not the easier one to keep. -/
inductive AtLeastAsStrict : Gate → Gate → Prop where
  | rewardRisk {m' m : Decimal} (h : m'.less m = .ok false) :
    AtLeastAsStrict (.rewardRisk m') (.rewardRisk m)
  | stopDistance {m' m : Decimal} (h : m'.less m = .ok false) :
    AtLeastAsStrict (.stopDistance m') (.stopDistance m)
  | maxPositions {n' n : Int} (h : n' ≤ n) :
    AtLeastAsStrict (.maxPositions (.int n')) (.maxPositions (.int n))

variable {s : Signal} {o : Decimal}

/-- A ratio of reward to risk that can be computed, from a risk that is positive, passes where it
is not below the minimum. -/
theorem judgeRatio_eq_pass
    {minimum x y r : Decimal} (hx : s.rewardFrom o = .ok x) (hy : s.riskFrom o = .ok y)
    (hzero : y.atMost .zero = .ok false) (hr : x.div y = .ok r)
    (hless : r.less minimum = .ok false) :
  judgeRatio minimum s o = .ok .pass
  := by
  simp only [judgeRatio, hx, hy, hzero, hr, hless, Except.bind, bind, pure, Except.pure,
    Bool.false_eq_true, if_false]

/-- So does a distance of the stop loss, at an open price that is positive. -/
theorem judgeDistance_eq_pass
    {minimum y r t : Decimal} (hzero : o.atMost .zero = .ok false) (hy : s.riskFrom o = .ok y)
    (hr : y.div o = .ok r) (ht : r.mul (.ofInt 100) = .ok t)
    (hless : t.less minimum = .ok false) :
  judgeDistance minimum s o = .ok .pass
  := by
  simp only [judgeDistance, distanceOf, hzero, hy, hr, ht, hless, Except.bind, bind, pure,
    Except.pure, Bool.false_eq_true, if_false]

/-- A number of open positions passes where it is below the limit. -/
theorem judgeCount_eq_pass
    {limit count : Int} (h : count < limit) :
  judgeCount (.int limit) count = .ok .pass
  := by
  have hfull : reaches count (.int limit) = .ok false := by
    rw [reaches_int, decide_eq_false (by omega)]
  simp only [judgeCount, hfull, Except.bind, bind, pure, Except.pure, Bool.false_eq_true,
    if_false]

/-- What passes a gate passes every gate that is no stricter. -/
theorem AtLeastAsStrict.judge_passes
    {g' g : Gate} (h : g'.AtLeastAsStrict g) {i : Inspection} {f : Finding}
    (hf : g'.judge i = .ok f) (hpass : f.isPass = true) :
  ∃ f, g.judge i = .ok f ∧ f.isPass = true
  := by
  use .pass
  refine ⟨?_, rfl⟩
  cases h with
  | @rewardRisk m' m hm =>
    cases ho : i.signal.openPrice with
    | none => simp only [judge, ho]
    | some o =>
      simp only [judge, ho] at hf ⊢
      obtain ⟨x, y, r, hx, hy, hzero, hr, hless⟩ :=
        (judgeRatio_eq_ok (mapError_eq_ok.mp hf)).2 hpass
      rw [mapError_eq_ok]
      apply judgeRatio_eq_pass hx hy hzero hr (Decimal.not_less_trans hless hm)
  | @stopDistance m' m hm =>
    cases ho : i.signal.openPrice with
    | none => simp only [judge, ho]
    | some o =>
      simp only [judge, ho] at hf ⊢
      obtain ⟨y, r, t, hzero, hy, hr, ht, hless⟩ :=
        (judgeDistance_eq_ok (mapError_eq_ok.mp hf)).2 hpass
      rw [mapError_eq_ok]
      apply judgeDistance_eq_pass hzero hy hr ht (Decimal.not_less_trans hless hm)
  | @maxPositions n' n hn => apply judgeCount_eq_pass ((judgeCount_lt hf hpass).trans_le hn)

end Gate

/-! ### Configurations -/

namespace GateConfig

/-- Every gate of an enabled profile is matched by one of an enabled profile of the stricter
configuration. -/
def AtLeastAsStrict (c' c : GateConfig) : Prop :=
  ∀ q ∈ c.enabledProfiles, ∀ g ∈ Gate.ofProfile q,
    ∃ q' ∈ c'.enabledProfiles, ∃ g' ∈ Gate.ofProfile q', g'.AtLeastAsStrict g

/-- A signal passes all gates of a configuration. -/
def Passes (c : GateConfig) (i : Inspection) : Prop :=
  ∀ q ∈ c.enabledProfiles, ∀ g ∈ Gate.ofProfile q, ∃ f, g.judge i = .ok f ∧ f.isPass = true

theorem AtLeastAsStrict.passes
    {c' c : GateConfig} (h : c'.AtLeastAsStrict c) {i : Inspection} (hi : c'.Passes i) :
  c.Passes i
  := by
  intro q hq g hg
  obtain ⟨q', hq', g', hg', hstrict⟩ := h q hq g hg
  obtain ⟨f, hf, hpass⟩ := hi q' hq' g' hg'
  apply hstrict.judge_passes hf hpass

end GateConfig

namespace Registry

variable {c : GateConfig} {r : Registry σ} {signal : Signal} {price timestamp : Value}
  {stack : Stack} {i : Inspection}

/-- A signal that passes all gates of a configuration is admitted, and nothing changes. -/
theorem outcome_evaluate_of_passes
    (hr : r.risks = Risk.ofConfig c)
    (hi : r.inspectAt stack.current signal price timestamp = .ok i) (hpasses : c.Passes i)
    (s : σ) :
  (r.evaluate signal price timestamp).outcome stack s
    = (.ok (.admission i.signal i.timestamp), s)
  := by
  have hadmitted : (c.decisionOn i).verdict = .admitted :=
    GateConfig.decisionOn_admitted_iff.mpr hpasses
  rw [outcome_evaluate_ofConfig hr, hi]
  change (Except.ok (c.decisionOn i), s) = _
  rw [GateConfig.decisionOn_of_admitted hadmitted]

/-- A signal that is admitted under a configuration is admitted under every configuration that is
no stricter, at the same price and time, under the same frame and among the same positions.  The
two evaluations end with one decision and leave one state. -/
theorem stricter_admits_less
    {a b : GateConfig} {ra rb : Registry σ} (ha : ofConfig a = .ok ra)
    (hb : ofConfig b = .ok rb) (hstrict : b.AtLeastAsStrict a)
    (positions : List (String × OpenPosition)) (signal : Signal) (price timestamp : Value)
    (stack : Stack) (s s' : σ) (d : Decision)
    (h : (evaluate { rb with positions := positions } signal price timestamp).outcome stack s
      = (.ok d, s'))
    (hd : d.verdict = .admitted) :
  (evaluate { ra with positions := positions } signal price timestamp).outcome stack s
    = (.ok d, s')
  := by
  have hra : ({ ra with positions := positions } : Registry σ).risks = Risk.ofConfig a := by
    rw [← risks_ofConfig ha]
  have hrb : ({ rb with positions := positions } : Registry σ).risks = Risk.ofConfig b := by
    rw [← risks_ofConfig hb]
  obtain ⟨i, hi⟩ := exists_inspectAt h
  have hpasses : b.Passes i := (admitted_iff_gates_pass hrb h hi).mp hd
  -- an inspection sees the positions of a registry, and not its risks
  have hi' : inspectAt { ra with positions := positions } stack.current signal price timestamp
      = .ok i := hi
  calc (evaluate { ra with positions := positions } signal price timestamp).outcome stack s
      = (.ok (.admission i.signal i.timestamp), s) :=
        outcome_evaluate_of_passes hra hi' (hstrict.passes hpasses) s
    _ = (evaluate { rb with positions := positions } signal price timestamp).outcome stack s :=
        (outcome_evaluate_of_passes hrb hi hpasses s).symm
    _ = (.ok d, s') := h

/-- The default thresholds and more, in one profile; a second profile is switched off. -/
def tightened : GateConfig :=
  ⟨.m15,
    [{ name := "tight", enabled := true, note := "",
       minRewardRisk := some (.finite false 200 (-2)), minStopLossPct := some (.ofInt 5),
       maxActivePositions := 3 },
     { name := "off", enabled := false, note := "",
       minRewardRisk := some (.ofInt 9), minStopLossPct := none, maxActivePositions := 0 }]⟩

theorem stricter_admits_less_tightened :
  ∃ (ra rb : Registry Unit) (d : Decision),
    ofConfig .default = .ok ra ∧ ofConfig tightened = .ok rb
    ∧ tightened.AtLeastAsStrict .default
    ∧ (evaluate rb limitOrder (.decimal (.ofInt 99)) .null).outcome [] () = (.ok d, ())
    ∧ d.verdict = .admitted
    ∧ (evaluate ra limitOrder (.decimal (.ofInt 99)) .null).outcome [] () = (.ok d, ())
  := by
  let ra : Registry Unit := ⟨Risk.ofConfig .default, []⟩
  let rb : Registry Unit := ⟨Risk.ofConfig tightened, []⟩
  have ha : ofConfig .default = .ok ra := rfl
  have hb : ofConfig tightened = .ok rb := rfl
  have hstrict : tightened.AtLeastAsStrict .default := by
    have hon : ∀ q ∈ tightened.enabledProfiles.head?, q ∈ tightened.enabledProfiles :=
      fun q => List.mem_of_mem_head?
    intro q hq g hg
    refine ⟨_, hon _ rfl, ?_⟩
    obtain rfl | rfl : q = Profile.defaults[0] ∨ q = Profile.defaults[1] := by
      simpa [GateConfig.enabledProfiles, GateConfig.default, Profile.defaults] using hq
    · obtain rfl : g = .rewardRisk (.ofInt 2) := by
        simpa [Gate.ofProfile, Profile.defaults] using hg
      exact ⟨.rewardRisk (.finite false 200 (-2)), by simp [Gate.ofProfile],
        .rewardRisk (by decide +kernel)⟩
    · obtain rfl : g = .stopDistance (.ofInt 1) := by
        simpa [Gate.ofProfile, Profile.defaults] using hg
      exact ⟨.stopDistance (.ofInt 5), by simp [Gate.ofProfile],
        .stopDistance (by decide +kernel)⟩
  have hadmitted :
      ((evaluate rb limitOrder (.decimal (.ofInt 99)) .null).outcome [] ()).1.toOption.map
        Decision.verdict = some .admitted := by
    decide +kernel
  rcases h : (evaluate rb limitOrder (.decimal (.ofInt 99)) .null).outcome [] () with ⟨e | d, s'⟩
  · rw [h] at hadmitted
    cases hadmitted
  · rw [h] at hadmitted
    have hd : d.verdict = .admitted := Option.some.inj hadmitted
    exact ⟨ra, rb, d, ha, hb, hstrict, h, hd,
      stricter_admits_less ha hb hstrict [] _ _ _ [] () s' d h hd⟩

end Registry

end TradeGate
