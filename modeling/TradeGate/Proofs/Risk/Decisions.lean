import TradeGate.Proofs.Risk.Evaluation
import TradeGate.Proofs.Risk.Figures
import TradeGate.Proofs.Risk.Registration

/-!
# The decision of a configuration

A registry made from a configuration holds the gates of the enabled profiles and nothing else.
A gate is a function of the inspection, which answers with a verdict or fails with an ordinary
fault, and a fault speaks against the signal.  So an evaluation is one inspection and one decision
on it, by the first gate in order that objects, and it changes nothing.
-/

namespace TradeGate

variable {σ : Type}

/-! ### Inspections -/

/-- The circumstances under which an inspection can be made: the current price is a finite
decimal, the time is an instant where one is given, and the frame can be read. -/
structure CanInspect (frame : Frame) (price timestamp : Value) : Prop where
  price : ∃ p, Registry.priceOf price = .ok p ∧ p.isFinite = true
  timestamp : timestamp.truth = true →
    ∃ t, timestamp.readNullable Value.readInstant = .done t
  strategy : ∃ n, frame.strategy.readText = .done n
  exchange : ∃ n, frame.exchange.readText = .done n
  name : ∃ n, frame.name.readText = .done n
  backtest : ∃ b, frame.backtest.readTruth = .done b

/-- What is made of a reading of several parts is made of the parts. -/
theorem Reading.map_seq
    {α β γ : Type} (g : β → γ) (f : Reading (α → β)) (x : Reading α) :
  g <$> (f <*> x) = (fun h a => g (h a)) <$> f <*> x
  := by
  cases f <;> cases x <;> rfl

/-- Two records that differ in the symbol and the current price are read alike. -/
theorem Inspection.read_eq_map
    {s s' : Signal} {ps : List OpenPosition} {symbol symbol' : String} {price price' : Value}
    {p p' : Decimal} (hp : price.readDecimal = .done p) (hp' : price'.readDecimal = .done p')
    {rest : Fields} :
  Inspection.read s' ps (("symbol", .text symbol') :: ("current_price", price') :: rest)
    = (fun i : Inspection => { i with symbol := symbol', signal := s', currentPrice := p' })
      <$> Inspection.read s ps (("symbol", .text symbol) :: ("current_price", price) :: rest)
  := by
  have hskip {α : Type} (name : String) (hname : name ≠ "symbol" ∧ name ≠ "current_price")
      (t : String) (v : Value) (default : α) (read : Value → Reading α) :
      Fields.optional (("symbol", .text t) :: ("current_price", v) :: rest) name default read
        = rest.optional name default read := by
    simp [Fields.optional, Value.lookup, hname.1.symm, hname.2.symm]
  have hsymbol (t : String) (v : Value) :
      Fields.required (("symbol", .text t) :: ("current_price", v) :: rest) "symbol"
        Value.readText = .done t := by
    simp [Fields.required, Value.lookup, Value.readText, Reading.below]
  have hcurrent (t : String) (v : Value) :
      Fields.required (("symbol", .text t) :: ("current_price", v) :: rest) "current_price"
        Value.readDecimal = v.readDecimal.below "current_price" := by
    simp [Fields.required, Value.lookup]
  unfold Inspection.read
  simp only [hsymbol, hcurrent, hp, hp']
  rw [hskip _ (by decide), hskip _ (by decide), hskip _ (by decide), hskip _ (by decide),
    hskip _ (by decide), hskip _ (by decide)]
  simp only [Reading.map_seq, Reading.below]
  rfl

namespace Registry

variable {r : Registry σ} {frame : Frame} {s s' : Signal} {p q : Decimal}
  {price timestamp : Value}

/-- The time of a signal is always an instant. -/
theorem exists_timestampFor
    (h : timestamp.truth = true → ∃ t, timestamp.readNullable Value.readInstant = .done t) :
  ∃ t, (timestampFor s timestamp).readNullable Value.readInstant = .done t
  := by
  unfold timestampFor
  split_ifs with htruth
  · exact h htruth
  · cases s.timestamp with
    | none => exact ⟨none, rfl⟩
    | some t => exact ⟨some t, rfl⟩

theorem inspectAt_of_price
    (hp : priceOf price = .ok p) :
  r.inspectAt frame s price timestamp = r.inspect frame s p (timestampFor s timestamp)
  := by
  rw [inspectAt, hp]
  rfl

/-- An inspection is made of what can be read. -/
theorem inspect_eq_ok
    {i : Inspection} :
  r.inspect frame s p timestamp = .ok i
    ↔ s.symbol = i.symbol ∧ (i.currentPrice.isFinite = true ∧ p = i.currentPrice)
      ∧ timestamp.readNullable Value.readInstant = .done i.timestamp
      ∧ frame.strategy.readText = .done i.strategy
      ∧ frame.exchange.readText = .done i.exchange
      ∧ frame.name.readText = .done i.frameName
      ∧ frame.backtest.readTruth = .done i.backtest
      ∧ (r.openCount : Int) = i.openCount
      ∧ s.withOpenPrice p = i.signal ∧ r.openPositions = i.openPositions
  := by
  unfold inspect
  rw [Reading.mapError_finish_eq_ok, Inspection.read_eq_done]
  simp [Fields.required, Fields.optional, Value.lookup, Value.readText, Value.readDecimal,
    Value.finiteDecimal_eq_done, Value.readInteger]

/-- Whether an inspection can be made does not depend on the signal. -/
theorem exists_inspectAt_iff :
  (∃ i, r.inspectAt frame s price timestamp = .ok i) ↔ CanInspect frame price timestamp
  := by
  constructor
  · rintro ⟨i, hi⟩
    obtain ⟨p, hp, hinspect⟩ := exists_inspect_of_inspectAt hi
    obtain ⟨-, ⟨hfinite, rfl⟩, htime, hstrategy, hexchange, hname, hbacktest, -⟩ :=
      inspect_eq_ok.mp hinspect
    refine ⟨⟨_, hp, hfinite⟩, ?_, ⟨_, hstrategy⟩, ⟨_, hexchange⟩, ⟨_, hname⟩, ⟨_, hbacktest⟩⟩
    intro htruth
    rw [timestampFor, if_pos htruth] at htime
    exact ⟨_, htime⟩
  · intro h
    obtain ⟨p, hp, hfinite⟩ := h.price
    obtain ⟨t, ht⟩ := exists_timestampFor (s := s) h.timestamp
    obtain ⟨strategy, hstrategy⟩ := h.strategy
    obtain ⟨exchange, hexchange⟩ := h.exchange
    obtain ⟨name, hname⟩ := h.name
    obtain ⟨backtest, hbacktest⟩ := h.backtest
    use ⟨s.symbol, s.withOpenPrice p, p, t, strategy, exchange, name, backtest, r.openCount,
      r.openPositions⟩
    rw [inspectAt_of_price hp]
    exact inspect_eq_ok.mpr ⟨rfl, ⟨hfinite, rfl⟩, ht, hstrategy, hexchange, hname, hbacktest,
      rfl, rfl, rfl⟩

/-- Inspections of two signals at two finite prices are made alike. -/
theorem inspect_eq_map
    (hp : p.isFinite = true) (hq : q.isFinite = true) :
  r.inspect frame s' q timestamp
    = (r.inspect frame s p timestamp).map fun i =>
      { i with symbol := s'.symbol, signal := s'.withOpenPrice q, currentPrice := q }
  := by
  have hprice {d : Decimal} (hd : d.isFinite = true) : Value.readDecimal (.decimal d) = .done d :=
    Value.finiteDecimal_eq_done.mpr ⟨hd, rfl⟩
  unfold inspect
  rw [Inspection.read_eq_map (hprice hp) (hprice hq)]
  cases Inspection.read _ _ _ <;> rfl

end Registry

/-! ### Gates as checks -/

theorem mapError_eq_ok
    {ε δ α : Type} {x : Except ε α} {f : ε → δ} {a : α} :
  x.mapError f = .ok a ↔ x = .ok a
  := by
  cases x with
  | error e =>
    change Except.error (f e) = Except.ok a ↔ _
    simp
  | ok b =>
    change Except.ok b = Except.ok a ↔ _
    simp

theorem mapError_eq_error
    {ε δ α : Type} {x : Except ε α} {f : ε → δ} {e : δ} (h : x.mapError f = .error e) :
  ∃ t, e = f t
  := by
  cases x with
  | error t =>
    cases h
    exact ⟨t, rfl⟩
  | ok b => cases h

namespace Gate

/-- A gate that comes to an end gives a verdict. -/
theorem judge_eq_ok
    {g : Gate} {i : Inspection} {f : Finding} (h : g.judge i = .ok f) :
  IsVerdict f
  := by
  cases g with
  | rewardRisk minimum =>
    simp only [judge] at h
    split at h
    · cases h
      exact .inl rfl
    · exact (judgeRatio_eq_ok (mapError_eq_ok.mp h)).1
  | stopDistance minimum =>
    simp only [judge] at h
    split at h
    · cases h
      exact .inl rfl
    · exact (judgeDistance_eq_ok (mapError_eq_ok.mp h)).1
  | maxPositions limit => exact (judgeCount_eq_ok h).1

theorem reaches_eq_error
    {count : Int} {limit : Value} {e : Fault} (h : reaches count limit = .error e) :
  e.isOrdinary = true ∧ e.isBroken = false
  := by
  unfold reaches at h
  split at h
  · cases h
  · split at h
    · obtain ⟨t, rfl⟩ := mapError_eq_error h
      exact ⟨rfl, rfl⟩
    · cases h
      exact ⟨rfl, rfl⟩

/-- A gate that does not fails with an ordinary fault. -/
theorem judge_eq_error
    {g : Gate} {i : Inspection} {e : Fault} (h : g.judge i = .error e) :
  e.isOrdinary = true ∧ e.isBroken = false
  := by
  have htrapped {x : Except Decimal.Trap Finding} (hx : x.mapError .trapped = .error e) :
      e.isOrdinary = true ∧ e.isBroken = false := by
    obtain ⟨t, rfl⟩ := mapError_eq_error hx
    exact ⟨rfl, rfl⟩
  cases g with
  | rewardRisk minimum =>
    simp only [judge] at h
    split at h
    · cases h
    · exact htrapped h
  | stopDistance minimum =>
    simp only [judge] at h
    split at h
    · cases h
    · exact htrapped h
  | maxPositions limit =>
    simp only [judge, judgeCount] at h
    cases hfull : reaches i.openCount limit with
    | error e' =>
      rw [hfull] at h
      cases h
      exact reaches_eq_error hfull
    | ok full =>
      rw [hfull] at h
      cases full <;> cases h

end Gate

/-- What the check of a gate ends with does not depend on where it is run, and it changes
nothing. -/
theorem Check.outcome_ofGate
    (g : Gate) (i : Inspection) (stack : Stack) (s : σ) :
  ((ofGate g).run i).outcome stack s = ((g.judge i).map .finding, s)
  := Act.outcome_ofExcept _ stack s

/-- What a gate has to say against a signal: its reason, or the text of the fault that stopped
it. -/
def Gate.objection? (g : Gate) (i : Inspection) : Option String :=
  match g.judge i with
  | .ok f => if f.isPass then none else some f.reason.plain
  | .error e => some e.text

namespace Gate

variable {g : Gate} {i : Inspection} {own : String}

/-- A gate has nothing to say against a signal exactly if it lets the signal pass. -/
theorem objection?_eq_none_iff :
  g.objection? i = none ↔ ∃ f, g.judge i = .ok f ∧ f.isPass = true
  := by
  unfold objection?
  cases g.judge i with
  | error e => simp
  | ok f => simp

theorem supports_of_objection?
    (h : g.objection? i = none) :
  Supports ((g.judge i).map .finding)
  := by
  obtain ⟨f, hf, hpass⟩ := objection?_eq_none_iff.mp h
  rw [hf]
  exact .finding hpass

theorem objects_of_objection?
    (h : g.objection? i = some own) :
  Objects ((g.judge i).map .finding) own
  := by
  unfold objection? at h
  cases hjudge : g.judge i with
  | error e =>
    rw [hjudge] at h
    obtain rfl := Option.some.inj h
    obtain ⟨he, hb⟩ := judge_eq_error hjudge
    exact .fault he hb
  | ok f =>
    rw [hjudge] at h
    obtain hpass | ⟨hfail, text, htext⟩ := judge_eq_ok hjudge
    · simp [hpass] at h
    · simp only [hfail, Bool.false_eq_true, if_false, Option.some.injEq] at h
      rw [← h, htext]
      exact .finding hfail htext

end Gate

/-! ### Registries of configurations -/

namespace Registry

/-- A finished risk that is registered becomes the last one. -/
theorem risks_of_add
    {k : Risk σ} {r r' : Registry σ} (h : r.add k = .ok r') :
  r'.risks = r.risks ++ [k]
  := by
  rw [add] at h
  split_ifs at h
  cases h
  rfl

/-- Finished risks that are registered one after the other are added in order. -/
theorem risks_of_foldlM
    {ks : List (Risk σ)} {r r' : Registry σ} (h : ks.foldlM add r = .ok r') :
  r'.risks = r.risks ++ ks
  := by
  induction ks generalizing r with
  | nil =>
    cases h
    rw [List.append_nil]
  | cons k ks ih =>
    obtain ⟨r₁, hadd, hrest⟩ := bind_eq_ok.mp h
    have hrisks : r₁.risks = r.risks ++ [k] := risks_of_add hadd
    rw [ih hrest, hrisks, List.append_assoc, List.singleton_append]

/-- The registry of a configuration has the risks of the configuration. -/
theorem risks_ofConfig
    {c : GateConfig} {r : Registry σ} (h : ofConfig c = .ok r) :
  r.risks = Risk.ofConfig c
  := risks_of_foldlM h

end Registry

/-! ### Decisions -/

namespace GateConfig

/-- The gates of a configuration in order, each with its profile. -/
def gates (c : GateConfig) : List (Profile × Gate) :=
  c.enabledProfiles.flatMap fun q => (Gate.ofProfile q).map fun g => (q, g)

/-- The profile and the reason of the first gate that objects. -/
def firstObjection? (i : Inspection) (gates : List (Profile × Gate)) :
    Option (Profile × String) :=
  gates.findSome? fun p => (p.2.objection? i).map fun own => (p.1, reasonFor own p.2.note)

/-- A reason is never empty. -/
theorem ne_empty_of_firstObjection?
    {i : Inspection} {gates : List (Profile × Gate)} {q : Profile} {reason : String}
    (h : firstObjection? i gates = some (q, reason)) :
  reason ≠ ""
  := by
  obtain ⟨p, -, hp⟩ := List.exists_of_findSome?_eq_some h
  obtain ⟨own, -, heq⟩ := Option.map_eq_some_iff.mp hp
  cases heq
  exact reasonFor_ne_empty own p.2.note

/-- The decision of a configuration: a rejection in the name of the first profile with a gate
that objects, or else an admission. -/
def decisionOn (c : GateConfig) (i : Inspection) : Decision :=
  match firstObjection? i c.gates with
  | some (q, reason) => .rejection i.signal q.name reason i.timestamp
  | none => .admission i.signal i.timestamp

theorem mem_gates
    {c : GateConfig} {p : Profile × Gate} :
  p ∈ c.gates ↔ p.1 ∈ c.enabledProfiles ∧ p.2 ∈ Gate.ofProfile p.1
  := by
  obtain ⟨q, g⟩ := p
  simp only [gates, List.mem_flatMap, List.mem_map, Prod.mk.injEq]
  constructor
  · rintro ⟨_, hq, _, hg, rfl, rfl⟩
    use hq, hg
  · rintro ⟨hq, hg⟩
    use q, hq, g, hg

theorem verdict_decisionOn_iff
    {c : GateConfig} {i : Inspection} :
  (c.decisionOn i).verdict = .admitted ↔ firstObjection? i c.gates = none
  := by
  unfold decisionOn
  cases firstObjection? i c.gates <;> simp [Decision.rejection, Decision.admission]

theorem decisionOn_of_admitted
    {c : GateConfig} {i : Inspection} (h : (c.decisionOn i).verdict = .admitted) :
  c.decisionOn i = .admission i.signal i.timestamp
  := by
  unfold decisionOn
  rw [verdict_decisionOn_iff.mp h]

/-- A signal is admitted exactly if every gate of every enabled profile lets it pass. -/
theorem decisionOn_admitted_iff
    {c : GateConfig} {i : Inspection} :
  (c.decisionOn i).verdict = .admitted
    ↔ ∀ q ∈ c.enabledProfiles, ∀ g ∈ Gate.ofProfile q, ∃ f, g.judge i = .ok f ∧ f.isPass = true
  := by
  rw [verdict_decisionOn_iff, firstObjection?, List.findSome?_eq_none_iff]
  constructor
  · intro h q hq g hg
    have hp := h (q, g) (mem_gates.mpr ⟨hq, hg⟩)
    exact Gate.objection?_eq_none_iff.mp (Option.map_eq_none_iff.mp hp)
  · rintro h ⟨q, g⟩ hp
    obtain ⟨hq, hg⟩ := mem_gates.mp hp
    exact Option.map_eq_none_iff.mpr (Gate.objection?_eq_none_iff.mpr (h q hq g hg))

end GateConfig

namespace Registry

variable {r : Registry σ} {c : GateConfig} {signal : Signal} {price timestamp : Value}

/-- The checks of a configuration are its gates, in order. -/
theorem checks_eq_map
    (hr : r.risks = Risk.ofConfig c) :
  r.checks = c.gates.map fun p => (.ofProfile p.1, .ofGate p.2)
  := by
  rw [checks, hr, Risk.ofConfig, GateConfig.gates]
  induction c.enabledProfiles with
  | nil => rfl
  | cons q qs ih =>
    cases hq : q.hasGates with
    | true =>
      simp only [List.filter_cons, hq, if_true, List.map_cons, List.flatMap_cons, List.map_append]
      rw [ih]
      simp [Risk.ofProfile]
    | false =>
      have hnil : Gate.ofProfile q = [] := by
        by_contra hne
        simp [(Gate.ofProfile_ne_nil_iff q).mp hne] at hq
      simp [hq, hnil, ih]

/-- The first check that fails is that of the first gate that objects. -/
theorem outcome_firstFailure_gates
    (gates : List (Profile × Gate)) (i : Inspection) (stack : Stack) (s : σ) :
  (firstFailure i (gates.map fun p => (.ofProfile p.1, .ofGate p.2))).outcome stack s
    = (.ok ((GateConfig.firstObjection? i gates).map fun p => (.ofProfile p.1, .text p.2)), s)
  := by
  induction gates with
  | nil => rfl
  | cons p gates ih =>
    obtain ⟨q, g⟩ := p
    have hrun := Check.outcome_ofGate g i stack s
    rw [List.map_cons]
    cases hg : g.objection? i with
    | none =>
      have hpassed : Passed stack i [(Risk.ofProfile q, Check.ofGate g)] s s :=
        .cons hrun (Gate.supports_of_objection? hg) (.nil s)
      have hnext : GateConfig.firstObjection? i ((q, g) :: gates)
          = GateConfig.firstObjection? i gates := by
        simp [GateConfig.firstObjection?, hg]
      rw [hnext, ← ih]
      exact hpassed.outcome_firstFailure _
    | some own =>
      have hfirst : GateConfig.firstObjection? i ((q, g) :: gates)
          = some (q, reasonFor own g.note) := by
        simp [GateConfig.firstObjection?, hg]
      rw [hfirst]
      exact ((Gate.objects_of_objection? hg).fails g.note).outcome_firstFailure hrun _

/-- Risks without a callback for admissions change nothing when they are told of one. -/
theorem outcome_notifyAllowed_of_silent
    {ks : List (Risk σ)} (h : ∀ k ∈ ks, k.onAllowed = none) (symbol : String) (i : Inspection)
    (stack : Stack) (s : σ) :
  (notifyAllowed symbol i ks).outcome stack s = (.ok (), s)
  := by
  induction ks with
  | nil => rfl
  | cons k ks ih =>
    obtain ⟨hk, hks⟩ := List.forall_mem_cons.mp h
    simp only [notifyAllowed, Risk.notifyAllowed, hk, Act.outcome_bind, Act.outcome_pure, ih hks]

/-- An evaluation inspects the signal and decides on the inspection, and changes nothing. -/
theorem outcome_evaluate_ofConfig
    (hr : r.risks = Risk.ofConfig c) (stack : Stack) (s : σ) :
  (r.evaluate signal price timestamp).outcome stack s
    = ((r.inspectAt stack.current signal price timestamp).map c.decisionOn, s)
  := by
  simp only [evaluate, Act.outcome_bind, Act.outcome_stack, Act.outcome_ofExcept]
  cases hi : r.inspectAt stack.current signal price timestamp with
  | error e => rfl
  | ok i =>
    have ht := timestamp_of_inspectAt hi
    simp only [judge, Act.outcome_bind, checks_eq_map hr, outcome_firstFailure_gates]
    change _ = (Except.ok (c.decisionOn i), s)
    rw [GateConfig.decisionOn]
    rcases hfirst : GateConfig.firstObjection? i c.gates with _ | ⟨q, reason⟩
    · have hsilent : ∀ k ∈ r.risks, k.onAllowed = none := by
        intro k hk
        rw [hr] at hk
        obtain ⟨q, -, rfl⟩ := List.mem_map.mp hk
        rfl
      simp only [Option.map_none, Act.outcome_bind, outcome_notifyAllowed_of_silent hsilent,
        decide_admitted i.signal ht, Act.outcome_ofExcept]
    · have htruth : (Value.text reason).truth = true := by
        simp [GateConfig.ne_empty_of_firstObjection? hfirst]
      have htold : ((Risk.ofProfile q : Risk σ).notifyRejected i.signal.symbol (.text reason)
          i).outcome stack s = (.ok (), s) := rfl
      have hname : (Risk.ofProfile q : Risk σ).name = q.name := rfl
      simp only [Option.map_some, Act.outcome_bind, htold, hname, Act.outcome_ofExcept,
        decide_rejectionFor q.name htruth ht]
      rfl

/-- Where an inspection can be made, an evaluation ends with a decision. -/
theorem exists_decisionOn
    (hr : r.risks = Risk.ofConfig c) (signal : Signal) {stack : Stack}
    (h : CanInspect stack.current price timestamp) (s : σ) :
  ∃ i, r.inspectAt stack.current signal price timestamp = .ok i
    ∧ (r.evaluate signal price timestamp).outcome stack s = (.ok (c.decisionOn i), s)
  := by
  obtain ⟨i, hi⟩ := (exists_inspectAt_iff (s := signal)).mpr h
  use i, hi
  rw [outcome_evaluate_ofConfig hr, hi]
  rfl

/-- Where none can be made, it fails. -/
theorem exists_fault
    (hr : r.risks = Risk.ofConfig c) (signal : Signal) {stack : Stack}
    (h : ¬ CanInspect stack.current price timestamp) (s : σ) :
  ∃ e, (r.evaluate signal price timestamp).outcome stack s = (.error e, s)
  := by
  rw [outcome_evaluate_ofConfig hr]
  cases hi : r.inspectAt stack.current signal price timestamp with
  | error e => exact ⟨e, rfl⟩
  | ok i => exact absurd (exists_inspectAt_iff.mp ⟨i, hi⟩) h

end Registry

end TradeGate
