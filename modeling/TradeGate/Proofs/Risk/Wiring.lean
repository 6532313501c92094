import TradeGate.Pipeline.Basic
import TradeGate.Proofs.Reading
import TradeGate.Proofs.Risk.Registration

/-!
# Wiring a configuration

A configuration that was read names its profiles distinctly.  Its registry has one risk for each
enabled profile that has a gate, and each risk has one check for each threshold of its profile.
Reading does not ask for everything that registration asks for: a profile may be read with an
empty name, under which no risk is registered.
-/

namespace TradeGate

variable {ι σ : Type}

/-! ### Configurations that were read -/

namespace Reading

theorem check_eq_done
    {α : Type} {flaw? : α → Option Flaw} {x : Reading α} {a : α} :
  x.check flaw? = .done a ↔ x = .done a ∧ flaw? a = none
  := by
  cases x with
  | refused i is => simp [check]
  | done b =>
    cases hb : flaw? b with
    | none =>
      simp only [check, hb, done.injEq, iff_self_and]
      rintro rfl
      exact hb
    | some f =>
      simp only [check, hb, refuse, reduceCtorEq, done.injEq, false_iff, not_and]
      rintro rfl
      simp [hb]

end Reading

namespace GateConfig

/-- The enabled profiles that have a gate, in order. -/
def gated (c : GateConfig) : List Profile :=
  c.enabledProfiles.filter Profile.hasGates

theorem duplicateNames?_eq_none_iff
    {c : GateConfig} :
  c.duplicateNames? = none ↔ (c.profiles.map Profile.name).Nodup
  := by
  simp only [duplicateNames?, List.isEmpty_iff, ite_eq_left_iff, reduceCtorEq, imp_false,
    not_not, List.eq_nil_iff_forall_not_mem, mem_repeated, Nat.not_lt, List.nodup_iff_count_le_one]

/-- The profiles of a configuration that was read have distinct names. -/
theorem nodup_of_read
    {fields : Fields} {c : GateConfig} (h : read fields = .done c) :
  (c.profiles.map Profile.name).Nodup
  := duplicateNames?_eq_none_iff.mp (Reading.check_eq_done.mp h).2

theorem gated_sublist
    (c : GateConfig) :
  c.gated.Sublist c.profiles
  := List.filter_sublist.trans List.filter_sublist

end GateConfig

/-! ### Registration of finished risks -/

namespace Registry

/-- Finished risks with distinct names are registered in order, unless one has no name. -/
theorem foldlM_add
    {ks : List (Risk σ)} {r : Registry σ} (h : (r.names ++ ks.map Risk.name).Nodup) :
  ks.foldlM add r
    = if ∀ k ∈ ks, k.name ≠ "" then .ok { r with risks := r.risks ++ ks }
      else .error .missingName
  := by
  induction ks generalizing r with
  | nil => simp [pure, Except.pure]
  | cons k ks ih =>
    rw [List.foldlM_cons, add]
    by_cases hname : k.name = ""
    · simp [hname, bind, Except.bind]
    · have hnew : k.name ∉ r.names := by
        intro hmem
        exact (List.nodup_append.mp h).2.2 k.name hmem k.name (by simp) rfl
      have hrest : (({ r with risks := r.risks ++ [k] } : Registry σ).names
          ++ ks.map Risk.name).Nodup := by
        simpa [names] using h
      rw [if_neg hname, if_neg hnew]
      change ks.foldlM add _ = _
      rw [ih hrest]
      simp [hname]

/-- The registry of a configuration with distinct names has the risks of the configuration,
unless one of them has no name. -/
theorem ofConfig_eq
    {c : GateConfig} (h : (c.profiles.map Profile.name).Nodup) :
  (ofConfig c : Except RiskFlaw (Registry σ))
    = if ∀ q ∈ c.gated, q.name ≠ "" then .ok ⟨Risk.ofConfig c, []⟩ else .error .missingName
  := by
  have hnames : ((empty : Registry σ).names
      ++ (Risk.ofConfig c : List (Risk σ)).map Risk.name).Nodup := by
    change ((c.gated.map Risk.ofProfile).map (Risk.name (σ := σ))).Nodup
    rw [List.map_map]
    exact h.sublist (c.gated_sublist.map _)
  rw [ofConfig, foldlM_add hnames]
  congr 1
  change (∀ k ∈ c.gated.map Risk.ofProfile, k.name ≠ "") = _
  rw [List.forall_mem_map]
  rfl

end Registry

/-! ### Wired configurations -/

/-- A risk has the name of a profile, and one check for each threshold that the profile sets. -/
structure Risk.Wires (k : Risk σ) (q : Profile) : Prop where
  name : k.name = q.name
  checks : k.checks = (q.minRewardRisk.toList.map fun m => .ofGate (.rewardRisk m))
    ++ (q.minStopLossPct.toList.map fun m => .ofGate (.stopDistance m))
    ++ (if 0 < q.maxActivePositions then [.ofGate (.maxPositions (.int q.maxActivePositions))]
      else [])
  checks_ne : k.checks ≠ []

theorem Risk.wires_ofProfile
    {q : Profile} (hq : q.hasGates = true) :
  (ofProfile q : Risk σ).Wires q
  where
  name := rfl
  checks := by
    simp only [ofProfile, Gate.ofProfile]
    cases q.minRewardRisk <;> cases q.minStopLossPct <;> by_cases hmax : 0 < q.maxActivePositions <;>
      simp [hmax]
  checks_ne := by
    rw [ofProfile, ne_eq, List.map_eq_nil_iff]
    exact (Gate.ofProfile_ne_nil_iff q).mpr hq

namespace Desk

/-- The desk of a configuration: its registry, with a cache for its timeframe. -/
def ofConfig (c : GateConfig) (bound : Int) (world : σ) : Except RiskFlaw (Desk ι σ) :=
  (Registry.ofConfig c).map fun r => create r c.timeframe bound world

/-- A desk has the risks of a configuration, in the order of the profiles, and its timeframe. -/
structure Wired (d : Desk ι σ) (c : GateConfig) : Prop where
  names : d.registry.names = c.gated.map Profile.name
  risks : List.Forall₂ Risk.Wires d.registry.risks c.gated
  timeframe : d.cache.timeframe = c.timeframe

theorem wired_create
    (c : GateConfig) (bound : Int) (world : σ) :
  (create ⟨Risk.ofConfig c, []⟩ c.timeframe bound world : Desk ι σ).Wired c
  where
  names := by
    change (c.gated.map Risk.ofProfile).map Risk.name = _
    rw [List.map_map]
    rfl
  risks := by
    change List.Forall₂ _ (c.gated.map Risk.ofProfile) _
    rw [List.forall₂_map_left_iff, List.forall₂_same]
    intro q hq
    exact Risk.wires_ofProfile (List.mem_filter.mp hq).2
  timeframe := rfl

/-- A configuration that was read is wired, if each of its enabled profiles that have a gate is
named; otherwise it is refused for the missing name, and for nothing else. -/
theorem ofConfig_wires_unless_nameless
    {fields : Fields} {c : GateConfig} (h : GateConfig.read fields = .done c) (bound : Int)
    (world : σ) :
  ((∀ q ∈ c.gated, q.name ≠ "") →
      ∃ d : Desk ι σ, ofConfig c bound world = .ok d ∧ d.Wired c)
    ∧ ((∃ q ∈ c.gated, q.name = "") →
      (ofConfig c bound world : Except RiskFlaw (Desk ι σ)) = .error .missingName)
  := by
  have hregistry := Registry.ofConfig_eq (σ := σ) (GateConfig.nodup_of_read h)
  constructor
  · intro hnamed
    rw [if_pos hnamed] at hregistry
    use create ⟨Risk.ofConfig c, []⟩ c.timeframe bound world
    rw [ofConfig, hregistry]
    exact ⟨rfl, wired_create c bound world⟩
  · rintro ⟨q, hq, hname⟩
    rw [if_neg fun hnamed => hnamed q hq hname] at hregistry
    rw [ofConfig, hregistry]
    rfl

/-- A strict profile with two thresholds among a profile that is not enabled and one that sets no
threshold. -/
def strictProfiles : Fields :=
  [("timeframe", .text "1h"), ("profiles", .list
    [.record [("risk_name", .text "off"), ("enabled", .bool false), ("max_active_positions", .int 1)],
      .record [("risk_name", .text "")],
      .record [("risk_name", .text "strict"), ("min_stop_loss_pct", .decimal (.ofInt 1)),
        ("max_active_positions", .int 3)]])]

theorem ofConfig_wires_strictProfiles :
  ∃ (c : GateConfig) (d : Desk Unit Unit), GateConfig.read strictProfiles = .done c
    ∧ ofConfig c 0 () = .ok d ∧ d.Wired c
    ∧ d.registry.names = ["strict"]
  := by
  let c : GateConfig := ⟨.h1, [⟨"off", false, "", none, none, 1⟩, ⟨"", true, "", none, none, 0⟩,
    ⟨"strict", true, "", none, some (.ofInt 1), 3⟩]⟩
  have hread : GateConfig.read strictProfiles = .done c :=
    Reading.check_eq_done.mpr ⟨rfl, GateConfig.duplicateNames?_eq_none_iff.mpr (by decide)⟩
  obtain ⟨d, hd, hwired⟩ := (ofConfig_wires_unless_nameless hread 0 ()).1 (by decide)
  exact ⟨c, d, hread, hd, hwired, hwired.names⟩

/-- The fields of a profile that asks for twice the risk as a reward. -/
def doubleReward (name : String) : Value :=
  .record [("risk_name", .text name), ("min_reward_risk", .decimal (.ofInt 2))]

/-- A profile without a name is read, but not registered. -/
theorem nameless_profile_is_not_wired :
  ∃ c, GateConfig.read [("profiles", .list [doubleReward ""])] = .done c
    ∧ (ofConfig c 0 () : Except RiskFlaw (Desk Unit Unit)) = .error .missingName
  := by
  use ⟨.m15, [⟨"", true, "", some (.ofInt 2), none, 0⟩]⟩
  constructor
  · exact Reading.check_eq_done.mpr ⟨rfl, GateConfig.duplicateNames?_eq_none_iff.mpr (by decide)⟩
  · rfl

end Desk

end TradeGate
