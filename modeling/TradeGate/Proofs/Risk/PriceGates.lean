import TradeGate.Proofs.Risk.Decisions
import TradeGate.Proofs.Risk.Thresholds

/-!
# Price gates

A price gate lets a signal pass exactly if its figure can be computed and is not below the
minimum.  The figure depends, as a number, on the exact reward, the exact risk and the open price
alone: every operation on the way gives the same number, or overflows, on numbers that are equal.
-/

namespace TradeGate

open Decimal

/-- Equal numbers compare alike with every threshold. -/
theorem Decimal.less_congr
    {x x' : Decimal} (hx : x.isFinite = true) (hx' : x'.isFinite = true)
    (h : x'.value = x.value) (m : Decimal) :
  x'.less m = x.less m
  := by
  by_cases hm : m.isFinite = true
  · rw [less_of_finite hx hm, less_of_finite hx' hm, h]
  · cases x <;> cases x' <;> cases m <;> simp_all [isFinite, less, order, order?]

/-- An operation reaches a threshold if another one with the same exact result reaches it. -/
theorem Decimal.Rounds.exists_not_less
    {x : ℚ} {a b : Except Trap Decimal} {m : Decimal} (ha : Rounds x a) (hb : Rounds x b)
    (h : ∃ r, a = .ok r ∧ r.less m = .ok false) :
  ∃ r, b = .ok r ∧ r.less m = .ok false
  := by
  obtain ⟨r, hr, hless⟩ := h
  obtain ⟨r', hr', hvalue⟩ := ha.exists_ok hb hr
  use r', hr'
  rwa [less_congr (ha.of_eq_ok hr).1.isFinite (hb.of_eq_ok hr').1.isFinite hvalue]

namespace Figure

variable {q : Figure} {s s' : Signal} {o o' r m : Decimal} {i : Inspection}

/-- A price gate lets a signal with an open price pass exactly if its figure is computed and is
not below the minimum. -/
theorem objection?_eq_none_iff
    (hs : i.signal.IsFinite) (ho : i.signal.openPrice = some o) :
  (q.gate m).objection? i = none ↔ ∃ r, q.Computes i.signal o r ∧ r.less m = .ok false
  := by
  have hofinite := hs.openPrice o ho
  rw [Gate.objection?_eq_none_iff]
  cases q with
  | ratio =>
    simp only [gate, Gate.judge, ho, mapError_eq_ok]
    constructor
    · rintro ⟨f, hf, hpass⟩
      obtain ⟨x, y, r, hx, hy, hzero, hr, hless⟩ := (Gate.judgeRatio_eq_ok hf).2 hpass
      have hpos := Gate.value_pos_of_atMost (Signal.riskFrom_eq_ok hs hofinite hy).1 hzero
      exact ⟨r, ⟨x, y, hx, hy, hpos, hr⟩, hless⟩
    · rintro ⟨r, ⟨x, y, hx, hy, hpos, hr⟩, hless⟩
      have hzero := atMost_zero (Signal.riskFrom_eq_ok hs hofinite hy).1
      rw [decide_eq_false hpos.not_ge] at hzero
      exact ⟨.pass, Gate.judgeRatio_eq_pass hx hy hzero hr hless, rfl⟩
  | distance =>
    simp only [gate, Gate.judge, ho, mapError_eq_ok]
    constructor
    · rintro ⟨f, hf, hpass⟩
      obtain ⟨y, p, r, hzero, hy, hp, hr, hless⟩ := (Gate.judgeDistance_eq_ok hf).2 hpass
      have hpos := Gate.value_pos_of_atMost hofinite hzero
      exact ⟨r, ⟨hpos, distanceOf_eq_ok.mpr ⟨y, p, hy, hp, hr⟩⟩, hless⟩
    · rintro ⟨r, ⟨hpos, hdistance⟩, hless⟩
      have hzero := atMost_zero hofinite
      rw [decide_eq_false hpos.not_ge] at hzero
      obtain ⟨y, p, hy, hp, hr⟩ := distanceOf_eq_ok.mp hdistance
      exact ⟨.pass, Gate.judgeDistance_eq_pass hzero hy hp hr hless, rfl⟩

/-- Two trades whose exact rewards, exact risks and open prices are the same numbers. -/
structure SameNumbers (s : Signal) (o : Decimal) (s' : Signal) (o' : Decimal) : Prop where
  openPrice : o'.value = o.value
  reward : s'.reward o'.value = s.reward o.value
  risk : s'.risk o'.value = s.risk o.value

theorem SameNumbers.symm
    (h : SameNumbers s o s' o') :
  SameNumbers s' o' s o
  where
  openPrice := h.openPrice.symm
  reward := h.reward.symm
  risk := h.risk.symm

/-- Such trades have the same figures. -/
theorem SameNumbers.exists_computes
    (h : SameNumbers s o s' o') (hs : s.IsFinite) (ho : o.isFinite = true) (hs' : s'.IsFinite)
    (ho' : o'.isFinite = true) (hr : q.Computes s o r) :
  ∃ r', q.Computes s' o' r' ∧ r'.value = r.value
  := by
  have hreward := Signal.rounds_rewardFrom hs ho
  have hreward' := Signal.rounds_rewardFrom hs' ho'
  have hrisk := Signal.rounds_riskFrom hs ho
  have hrisk' := Signal.rounds_riskFrom hs' ho'
  rw [h.reward] at hreward'
  rw [h.risk] at hrisk'
  cases q with
  | ratio =>
    obtain ⟨x, y, hx, hy, hpos, hr⟩ := hr
    obtain ⟨x', hx', hxvalue⟩ := hreward.exists_ok hreward' hx
    obtain ⟨y', hy', hyvalue⟩ := hrisk.exists_ok hrisk' hy
    have hpos' : 0 < y'.value := hyvalue ▸ hpos
    have hratio := rounds_div (Signal.rewardFrom_eq_ok hs ho hx).1
      (Signal.riskFrom_eq_ok hs ho hy).1 hpos.ne'
    have hratio' := rounds_div (Signal.rewardFrom_eq_ok hs' ho' hx').1
      (Signal.riskFrom_eq_ok hs' ho' hy').1 hpos'.ne'
    rw [hxvalue, hyvalue] at hratio'
    obtain ⟨r', hr', hvalue⟩ := hratio.exists_ok hratio' hr
    exact ⟨r', ⟨x', y', hx', hy', hpos', hr'⟩, hvalue⟩
  | distance =>
    obtain ⟨hpos, hdistance⟩ := hr
    obtain ⟨y, p, hy, hp, hr⟩ := distanceOf_eq_ok.mp hdistance
    have hpos' : 0 < o'.value := h.openPrice ▸ hpos
    obtain ⟨y', hy', hyvalue⟩ := hrisk.exists_ok hrisk' hy
    have hshare := rounds_div (Signal.riskFrom_eq_ok hs ho hy).1 ho hpos.ne'
    have hshare' := rounds_div (Signal.riskFrom_eq_ok hs' ho' hy').1 ho' hpos'.ne'
    rw [hyvalue, h.openPrice] at hshare'
    obtain ⟨p', hp', hpvalue⟩ := hshare.exists_ok hshare' hp
    have hpercent := rounds_mul (hshare.of_eq_ok hp).1.isFinite (isFinite_ofInt 100)
    have hpercent' := rounds_mul (hshare'.of_eq_ok hp').1.isFinite (isFinite_ofInt 100)
    rw [hpvalue] at hpercent'
    obtain ⟨r', hr', hvalue⟩ := hpercent.exists_ok hpercent' hr
    exact ⟨r', ⟨hpos', distanceOf_eq_ok.mpr ⟨y', p', hy', hp', hr'⟩⟩, hvalue⟩

/-- So one reaches the thresholds that the other one reaches. -/
theorem SameNumbers.exists_not_less
    (h : SameNumbers s o s' o') (hs : s.IsFinite) (ho : o.isFinite = true) (hs' : s'.IsFinite)
    (ho' : o'.isFinite = true) (hr : ∃ r, q.Computes s o r ∧ r.less m = .ok false) :
  ∃ r, q.Computes s' o' r ∧ r.less m = .ok false
  := by
  obtain ⟨r, hr, hless⟩ := hr
  obtain ⟨r', hr', hvalue⟩ := h.exists_computes hs ho hs' ho' hr
  use r', hr'
  rwa [less_congr (isResult_of_computes hs ho hr).isFinite
    (isResult_of_computes hs' ho' hr').isFinite hvalue]

/-- A price gate lets both of such trades pass, or neither. -/
theorem SameNumbers.objection?_eq_none_iff
    {i' : Inspection} (h : SameNumbers i.signal o i'.signal o') (hs : i.signal.IsFinite)
    (ho : i.signal.openPrice = some o) (hs' : i'.signal.IsFinite)
    (ho' : i'.signal.openPrice = some o') :
  (q.gate m).objection? i' = none ↔ (q.gate m).objection? i = none
  := by
  have hofinite := hs.openPrice o ho
  have hofinite' := hs'.openPrice o' ho'
  rw [Figure.objection?_eq_none_iff hs ho, Figure.objection?_eq_none_iff hs' ho']
  exact ⟨h.symm.exists_not_less hs' hofinite' hs hofinite,
    h.exists_not_less hs hofinite hs' hofinite'⟩

end Figure

end TradeGate
