import TradeGate.Risk.Registration
import Mathlib.Data.List.Nodup
import Mathlib.Tactic.Common

/-!
# Registration of risks

A caller hands in candidates, one at a time, and goes on changing its lists as it likes.  A
candidate is entered with the checks that it has when it is handed in, or refused for a flaw, and
what was entered stays as it was then.  A refusal leaves the risks as they were.  But a call may
also fail after its candidate was entered, which happens exactly if the checks can be gone through
and have no length.
-/

namespace TradeGate

variable {σ : Type}

/-! ### What a draft stands for -/

/-- The check that a draft stands for: itself if it has a note, or else the function, noted by its
name if it has one. -/
inductive CheckDraft.StandsFor : CheckDraft σ → Check σ → Prop
  | noted (c : Check σ) : StandsFor (.noted c) c
  | named (name : Value) (run : Inspection → Act σ Answer) :
    StandsFor (.bare (some name) run) ⟨name, run⟩
  | nameless (run : Inspection → Act σ Answer) : StandsFor (.bare none run) ⟨.text "", run⟩

/-- The items that a source gives the second time. -/
def CheckSource.again (m : Memory σ) : CheckSource σ → List (CheckDraft σ)
  | .iterator _ => []
  | s => (s.items? m).getD []

/-- The copy of a draft with some checks that is entered. -/
def RiskDraft.copy (d : RiskDraft σ (CheckSource σ)) (cs : List (Check σ)) :
    RiskDraft σ (CheckSource σ) :=
  { d with checks := .fixed (cs.map .noted) }

/-- A draft with some checks, as it is listed. -/
def RiskDraft.withChecks (d : RiskDraft σ (CheckSource σ)) (cs : List (Check σ)) :
    RiskDraft σ (List (CheckDraft σ)) :=
  { d with checks := cs.map .noted }

namespace CheckDraft

/-- Going through items up to the first that cannot be run finds one if there is one. -/
theorem any_upTo
    (stop : CheckDraft σ → Bool) (xs : List (CheckDraft σ)) :
  (upTo stop xs).any stop = xs.any stop
  := by
  induction xs with
  | nil => rfl
  | cons x xs ih =>
    rw [upTo]
    cases hx : stop x <;> simp [hx, ih]

theorem any_isInert
    {xs : List (CheckDraft σ)} (h : .inert ∈ xs) :
  xs.any isInert = true
  := List.any_eq_true.mpr ⟨.inert, h, rfl⟩

theorem any_isInert_eq_false
    {xs : List (CheckDraft σ)} (h : .inert ∉ xs) :
  xs.any isInert = false
  := by
  rw [List.any_eq_false]
  intro x hx hinert
  cases x with
  | inert => exact h hx
  | _ => cases hinert

/-- Who stops at nothing that is there goes through all. -/
theorem upTo_eq_self
    {stop : CheckDraft σ → Bool} {xs : List (CheckDraft σ)} (h : xs.any stop = false) :
  upTo stop xs = xs
  := by
  induction xs with
  | nil => rfl
  | cons x xs ih =>
    rw [List.any_cons, Bool.or_eq_false_iff] at h
    rw [upTo, h.1, ih h.2]
    rfl

theorem upTo_end
    (xs : List (CheckDraft σ)) :
  upTo (fun _ => false) xs = xs
  := upTo_eq_self (List.any_eq_false.mpr fun _ _ => nofun)

/-- Drafts that can be run stand for checks. -/
theorem standsFor_of_runnable
    {xs : List (CheckDraft σ)} (h : .inert ∉ xs) :
  ∃ cs : List (Check σ), List.Forall₂ StandsFor xs cs
  := by
  induction xs with
  | nil => exact ⟨[], .nil⟩
  | cons x xs ih =>
    rw [List.mem_cons, not_or] at h
    obtain ⟨cs, hcs⟩ := ih h.2
    have hone : ∃ c, x.StandsFor c := by
      cases x with
      | noted c => exact ⟨c, .noted c⟩
      | bare name run =>
        cases name with
        | none => exact ⟨_, .nameless run⟩
        | some name => exact ⟨_, .named name run⟩
      | inert => exact absurd rfl h.1
    obtain ⟨c, hc⟩ := hone
    exact ⟨c :: cs, .cons hc hcs⟩

/-- A draft stands for one check. -/
theorem StandsFor.wrapped_eq
    {x : CheckDraft σ} {c : Check σ} (h : x.StandsFor c) :
  x.wrapped = .noted c
  := by
  cases h <;> rfl

theorem map_wrapped_of_standsFor
    {xs : List (CheckDraft σ)} {cs : List (Check σ)} (h : List.Forall₂ StandsFor xs cs) :
  xs.map wrapped = cs.map .noted
  := by
  induction h with
  | nil => rfl
  | cons hx _ ih => rw [List.map_cons, List.map_cons, hx.wrapped_eq, ih]

end CheckDraft

namespace RiskDraft

theorem name_of_risk?
    {k : RiskDraft σ (List (CheckDraft σ))} {r : Risk σ} (h : k.risk? = some r) :
  k.name = .text r.name
  := by
  unfold risk? at h
  split at h
  case h_1 s cs hname _ =>
    cases h
    exact hname
  · cases h

theorem risk?_withChecks
    {d : RiskDraft σ (CheckSource σ)} {s : String} (hname : d.name = .text s)
    (cs : List (Check σ)) :
  (d.withChecks cs).risk? = some ⟨s, cs, d.note, d.onRejected, d.onAllowed⟩
  := by
  have hchecks : (cs.map CheckDraft.noted).mapM CheckDraft.check? = some cs := by
    induction cs with
    | nil => rfl
    | cons c cs ih =>
      rw [List.map_cons, List.mapM_cons, ih]
      rfl
  simp only [risk?, withChecks, hname, hchecks]

end RiskDraft

/-- A registered risk is found under its name. -/
theorem Registry.get_of_mem
    {r : Registry σ} {k : Risk σ} (hnames : r.names.Nodup) (hk : k ∈ r.risks) :
  r.get (.text k.name) = .ok k
  := by
  have hfind : r.find? k.name = some k := by
    rw [find?]
    cases hfind : r.risks.find? fun k' => k'.name == k.name with
    | none =>
      exact absurd (beq_self_eq_true k.name) (List.find?_eq_none.mp hfind k hk)
    | some k' =>
      have hname : k'.name = k.name := by simpa using List.find?_some hfind
      rw [List.inj_on_of_nodup_map hnames (List.mem_of_find?_eq_some hfind) hk hname]
  simp [get, nameOf, Value.isKey, hfind, bind, Except.bind, pure, Except.pure]

namespace Cabinet

/-! ### One call -/

/-- Why a candidate is refused. -/
inductive Refuses (c : Cabinet σ) : Candidate σ → Fault → Prop
  | notRisk (v : Value) : Refuses c (.other v) (.riskRefused (.notRisk v.kindName))
  | missingName {d : RiskDraft σ (CheckSource σ)} (hname : d.isNamed = false) :
    Refuses c (.draft d) (.riskRefused .missingName)
  | nowhere {d : RiskDraft σ (CheckSource σ)} (hname : d.isNamed = true)
    (hitems : d.checks.items? c.memory = none) :
    Refuses c (.draft d) (.wrongKind "something to go through" d.checks.kindName)
  | notRunnable {d : RiskDraft σ (CheckSource σ)} {items : List (CheckDraft σ)}
    (hname : d.isNamed = true) (hitems : d.checks.items? c.memory = some items)
    (hinert : .inert ∈ items) : Refuses c (.draft d) (.riskRefused (.notRunnable d.name))
  | duplicate {d : RiskDraft σ (CheckSource σ)} {items : List (CheckDraft σ)}
    (hname : d.isNamed = true) (hitems : d.checks.items? c.memory = some items)
    (hinert : .inert ∉ items) (htaken : c.isTaken d.name = true) :
    Refuses c (.draft d) (.riskRefused (.duplicate d.name))

/-- A draft is entered with some checks: it has a new name, its checks can be gone through and all
be run, and the second time it gives those that stand for the checks. -/
structure Admits (c : Cabinet σ) (d : RiskDraft σ (CheckSource σ)) (cs : List (Check σ)) :
    Prop where
  named : d.isNamed = true
  runnable : ∃ items, d.checks.items? c.memory = some items ∧ .inert ∉ items
  isNew : c.isTaken d.name = false
  checks : List.Forall₂ CheckDraft.StandsFor (d.checks.again c.memory) cs

/-- What a call comes to that has entered its candidate. -/
def lengthOf (c : Cabinet σ) (s : CheckSource σ) : Except Fault Unit :=
  match s.length? c.memory with
  | some _ => .ok ()
  | none => .error (.wrongKind "something with a length" s.kindName)

theorem outcome_goThrough
    (stop : CheckDraft σ → Bool) (s : CheckSource σ) (stack : Stack) (c : Cabinet σ) :
  (goThrough stop s).outcome stack c = match s.items? c.memory with
    | none => (.error (.wrongKind "something to go through" s.kindName), c)
    | some items => (.ok (CheckDraft.upTo stop items),
      { c with memory := s.advance c.memory (CheckDraft.upTo stop items).length })
  := by
  rw [goThrough, Act.outcome_bind, Act.outcome_get]
  dsimp only
  cases s.items? c.memory with
  | none => rfl
  | some items => rfl

/-- Who has gone through all items of a source is given those of the second time. -/
theorem items?_advance
    {s : CheckSource σ} {m : Memory σ} {items : List (CheckDraft σ)}
    (h : s.items? m = some items) :
  s.items? (s.advance m items.length) = some (s.again m)
  := by
  cases s with
  | iterator a =>
    obtain rfl := Option.some.inj h
    simp [CheckSource.items?, CheckSource.advance, CheckSource.again]
  | nowhere v => cases h
  | _ =>
    obtain rfl := Option.some.inj h
    rfl

theorem again_subset
    {s : CheckSource σ} {m : Memory σ} {items : List (CheckDraft σ)}
    (h : s.items? m = some items) :
  s.again m ⊆ items
  := by
  cases s with
  | iterator a => exact List.nil_subset _
  | nowhere v => cases h
  | _ =>
    obtain rfl := Option.some.inj h
    exact List.Subset.refl _

theorem lists_advance
    (s : CheckSource σ) (m : Memory σ) (n : Nat) :
  (s.advance m n).lists = m.lists
  := by
  cases s <;> rfl

theorem length?_congr
    (s : CheckSource σ) {m m' : Memory σ} (h : m'.lists = m.lists) :
  s.length? m' = s.length? m
  := by
  cases s <;> simp [CheckSource.length?, h]

theorem lengthOf_eq_ok_iff
    {c : Cabinet σ} {s : CheckSource σ} :
  c.lengthOf s = .ok () ↔ (s.length? c.memory).isSome
  := by
  rw [lengthOf]
  cases s.length? c.memory <;> simp

theorem outcome_askLength
    (s : CheckSource σ) (stack : Stack) (c : Cabinet σ) :
  (discard (askLength s)).outcome stack c = (c.lengthOf s, c)
  := by
  change (askLength s >>= fun _ => pure PUnit.unit).outcome stack c = _
  rw [askLength, lengthOf]
  simp only [Act.outcome_bind, Act.outcome_get]
  cases s.length? c.memory with
  | none => rfl
  | some n => rfl

/-- A refusal leaves the risks and the lists as they were. -/
theorem Refuses.outcome_register
    {c : Cabinet σ} {x : Candidate σ} {e : Fault} (h : c.Refuses x e) (stack : Stack) :
  ∃ m, (register x).outcome stack c = (.error e, { c with memory := m })
    ∧ m.lists = c.memory.lists
  := by
  cases h with
  | notRisk v => exact ⟨c.memory, rfl, rfl⟩
  | missingName hname =>
    use c.memory
    simp [register, Act.outcome_bind, hname]
  | nowhere hname hitems =>
    use c.memory
    simp [register, Act.outcome_bind, hname, outcome_goThrough, hitems]
  | @notRunnable d items hname hitems hinert =>
    use d.checks.advance c.memory (CheckDraft.upTo CheckDraft.isInert items).length
    have hany : (CheckDraft.upTo CheckDraft.isInert items).any CheckDraft.isInert = true :=
      (CheckDraft.any_upTo _ _).trans (CheckDraft.any_isInert hinert)
    simp [register, Act.outcome_bind, outcome_goThrough, hname, hitems, hany, lists_advance,
      -List.any_eq_true]
  | @duplicate d items hname hitems hinert htaken =>
    use d.checks.advance c.memory items.length
    have hany := CheckDraft.any_isInert_eq_false hinert
    have htaken' (m : Memory σ) : ({ c with memory := m } : Cabinet σ).isTaken d.name = true :=
      htaken
    simp [register, Act.outcome_bind, outcome_goThrough, hname, hitems,
      CheckDraft.upTo_eq_self hany, hany, htaken', lists_advance, -List.any_eq_true]

/-- A draft is entered before its checks are asked for their length. -/
theorem Admits.outcome_register
    {c : Cabinet σ} {d : RiskDraft σ (CheckSource σ)} {cs : List (Check σ)}
    (h : c.Admits d cs) (stack : Stack) :
  ∃ m, (register (.draft d)).outcome stack c
      = (c.lengthOf d.checks, ⟨m, c.schemas ++ [d.copy cs]⟩)
    ∧ m.lists = c.memory.lists
  := by
  obtain ⟨items, hitems, hinert⟩ := h.runnable
  have hany := CheckDraft.any_isInert_eq_false hinert
  have hnew (m : Memory σ) : ({ c with memory := m } : Cabinet σ).isTaken d.name = false :=
    h.isNew
  have hlists (n : Nat) : (d.checks.advance (d.checks.advance c.memory items.length) n).lists
      = c.memory.lists := (lists_advance _ _ _).trans (lists_advance _ _ _)
  use d.checks.advance (d.checks.advance c.memory items.length) (d.checks.again c.memory).length
  refine ⟨?_, hlists _⟩
  simp only [register, Act.outcome_bind, Act.outcome_failIf, Act.outcome_get, Act.outcome_modify,
    outcome_goThrough, outcome_askLength, h.named, hitems, CheckDraft.upTo_eq_self hany, hany, hnew,
    items?_advance hitems, CheckDraft.upTo_end, CheckDraft.map_wrapped_of_standsFor h.checks,
    Bool.not_true, Bool.false_eq_true, if_false]
  rw [lengthOf, length?_congr d.checks (hlists _), lengthOf, RiskDraft.copy]

/-- A candidate is refused, or it is a draft that is entered with some checks. -/
theorem refuses_or_admits
    (c : Cabinet σ) (x : Candidate σ) :
  (∃ e, c.Refuses x e) ∨ ∃ d cs, x = .draft d ∧ c.Admits d cs
  := by
  cases x with
  | other v => exact .inl ⟨_, .notRisk v⟩
  | draft d =>
    cases hname : d.isNamed with
    | false => exact .inl ⟨_, .missingName hname⟩
    | true =>
      cases hitems : d.checks.items? c.memory with
      | none => exact .inl ⟨_, .nowhere hname hitems⟩
      | some items =>
        by_cases hinert : .inert ∈ items
        · exact .inl ⟨_, .notRunnable hname hitems hinert⟩
        · cases hnew : c.isTaken d.name with
          | true => exact .inl ⟨_, .duplicate hname hitems hinert hnew⟩
          | false =>
            have hagain : .inert ∉ d.checks.again c.memory :=
              fun hmem => hinert (again_subset hitems hmem)
            obtain ⟨cs, hchecks⟩ := CheckDraft.standsFor_of_runnable hagain
            exact .inr ⟨d, cs, rfl, hname, ⟨items, hitems, hinert⟩, hnew, hchecks⟩

/-! ### What was entered -/

/-- The risks were entered: each is the copy of a draft, and their names are distinct texts that
are not empty. -/
structure WellKept (c : Cabinet σ) : Prop where
  copies : ∀ k ∈ c.schemas, ∃ d cs, k = RiskDraft.copy d cs
  named : ∀ k ∈ c.schemas, k.isNamed = true
  distinct : (c.schemas.map fun k => k.name.points?).Nodup

theorem wellKept_nil
    (m : Memory σ) :
  (⟨m, []⟩ : Cabinet σ).WellKept
  := ⟨nofun, nofun, List.nodup_nil⟩

/-- Whatever the caller does, the risks that were entered keep their checks. -/
theorem WellKept.listed_eq
    {c c' : Cabinet σ} (hc : c.WellKept) (h : c'.schemas = c.schemas) :
  c'.listed = c.listed
  := by
  rw [listed, listed, h]
  apply List.map_congr_left
  intro k hk
  obtain ⟨d, cs, rfl⟩ := hc.copies k hk
  rfl

theorem WellKept.listed_concat
    {c c' : Cabinet σ} (hc : c.WellKept) {d : RiskDraft σ (CheckSource σ)} {cs : List (Check σ)}
    (h : c'.schemas = c.schemas ++ [d.copy cs]) :
  c'.listed = c.listed ++ [d.withChecks cs]
  := by
  have hsame : (⟨c'.memory, c.schemas⟩ : Cabinet σ).listed = c.listed := hc.listed_eq rfl
  rw [← hsame, listed, h, List.map_append]
  rfl

theorem WellKept.congr
    {c c' : Cabinet σ} (hc : c.WellKept) (h : c'.schemas = c.schemas) :
  c'.WellKept
  := by
  obtain ⟨m', ks'⟩ := c'
  obtain rfl := h
  exact ⟨hc.copies, hc.named, hc.distinct⟩

theorem WellKept.enter
    {c c' : Cabinet σ} (hc : c.WellKept) {d : RiskDraft σ (CheckSource σ)} {cs : List (Check σ)}
    (hd : c.Admits d cs) (h : c'.schemas = c.schemas ++ [d.copy cs]) :
  c'.WellKept
  := by
  constructor
  case copies =>
    rw [h, List.forall_mem_append]
    exact ⟨hc.copies, List.forall_mem_singleton.mpr ⟨d, cs, rfl⟩⟩
  case named =>
    rw [h, List.forall_mem_append]
    exact ⟨hc.named, List.forall_mem_singleton.mpr hd.named⟩
  case distinct =>
    rw [h, List.map_append, List.map_singleton, ← List.concat_eq_append, List.nodup_concat]
    refine ⟨?_, hc.distinct⟩
    intro hmem
    obtain ⟨k, hk, hname⟩ := List.mem_map.mp hmem
    have htaken := List.any_eq_false.mp hd.isNew k hk
    exact htaken (beq_iff_eq.mpr hname)

/-- The registry of a cabinet has distinct names too. -/
theorem WellKept.nodup_registry
    {c : Cabinet σ} (hc : c.WellKept) (positions : List (String × OpenPosition)) :
  (c.registry positions).names.Nodup
  := by
  have hlisted : c.listed.Pairwise fun k k' => k.name.points? ≠ k'.name.points? := by
    rw [listed, List.pairwise_map]
    exact List.pairwise_map.mp hc.distinct
  apply List.pairwise_map.mpr
  apply List.pairwise_filterMap.mpr
  apply hlisted.imp
  intro k k' hne r hr r' hr' heq
  rw [RiskDraft.name_of_risk? hr, RiskDraft.name_of_risk? hr', heq] at hne
  exact hne rfl

/-! ### Finished risks -/

/-- The cabinet in which finished risks were entered. -/
def ofRisks (m : Memory σ) (ks : List (Risk σ)) : Cabinet σ :=
  ⟨m, ks.map Risk.toDraft⟩

theorem registry_ofRisks
    (m : Memory σ) (r : Registry σ) :
  (ofRisks m r.risks).registry r.positions = r
  := by
  have hrisk (k : Risk σ) : RiskDraft.risk? (k.toDraft.withChecks k.checks) = some k :=
    RiskDraft.risk?_withChecks rfl k.checks
  have hlisted : (ofRisks m r.risks).listed
      = r.risks.map fun k => k.toDraft.withChecks k.checks := by
    rw [ofRisks, listed, List.map_map]
    rfl
  rw [registry, hlisted, List.filterMap_map]
  simp only [Function.comp_def, hrisk, List.filterMap_some]

theorem isTaken_ofRisks
    (m : Memory σ) (r : Registry σ) (s : String) :
  (ofRisks m r.risks).isTaken (.text s) = true ↔ s ∈ r.names
  := by
  simp only [isTaken, ofRisks, Risk.toDraft, Value.points?, List.any_map, List.any_eq_true,
    Function.comp_apply, beq_iff_eq, Option.some.injEq, Text.points_inj, Registry.names,
    List.mem_map]

/-- A registry takes a finished risk as a cabinet takes its draft. -/
theorem register_toDraft
    (m : Memory σ) (r : Registry σ) (k : Risk σ) (stack : Stack) :
  (register (.draft k.toDraft)).outcome stack (ofRisks m r.risks)
    = match r.add k with
      | .ok r' => (.ok (), ofRisks m r'.risks)
      | .error e => (.error (.riskRefused e), ofRisks m r.risks)
  := by
  have hnamed : k.toDraft.isNamed = !k.name.isEmpty := rfl
  have hitems (m : Memory σ) : k.toDraft.checks.items? m = some (k.checks.map .noted) := rfl
  have hadvance (m : Memory σ) (n : Nat) : k.toDraft.checks.advance m n = m := rfl
  have hinert : CheckDraft.inert ∉ k.checks.map CheckDraft.noted := by simp
  have hany := CheckDraft.any_isInert_eq_false hinert
  have htaken : (⟨m, r.risks.map Risk.toDraft⟩ : Cabinet σ).isTaken k.toDraft.name
      = decide (k.name ∈ r.names) :=
    Bool.eq_iff_iff.mpr ((isTaken_ofRisks m r k.name).trans decide_eq_true_iff.symm)
  have hwrapped : (k.checks.map CheckDraft.noted).map CheckDraft.wrapped
      = k.checks.map CheckDraft.noted := by
    rw [List.map_map]
    rfl
  simp only [register, Act.outcome_bind, Act.outcome_failIf, Act.outcome_get, Act.outcome_modify,
    outcome_goThrough, outcome_askLength, hnamed, hitems, hadvance, CheckDraft.upTo_eq_self hany,
    hany, CheckDraft.upTo_end, hwrapped, Registry.add]
  rw [ofRisks]
  by_cases hname : k.name = ""
  · simp [hname]
  · have hempty : k.name.isEmpty = false := by simpa using hname
    by_cases hmem : k.name ∈ r.names
    · simp only [htaken, hempty, hname, hmem, decide_true, Bool.not_false, Bool.not_true,
        Bool.false_eq_true, if_true, if_false]
      rfl
    · simp only [htaken, hempty, hname, hmem, decide_false, Bool.not_false, Bool.not_true,
        Bool.false_eq_true, if_false]
      rw [ofRisks, List.map_append]
      rfl

theorem outcome_registerAll_cons
    (x : Candidate σ) (xs : List (Candidate σ)) (stack : Stack) (c : Cabinet σ) :
  (registerAll (x :: xs)).outcome stack c = match (register x).outcome stack c with
    | (.ok _, c') => (registerAll xs).outcome stack c'
    | (.error e, c') => (.error e, c')
  := by
  change (register x >>= fun _ => registerAll xs).outcome stack c = _
  rw [Act.outcome_bind]
  rcases (register x).outcome stack c with ⟨e | a, c'⟩ <;> rfl

/-- Finished risks are registered one after the other as their drafts are. -/
theorem registerAll_toDraft
    (m : Memory σ) (ks : List (Risk σ)) (r : Registry σ) (stack : Stack) :
  match ks.foldlM Registry.add r with
  | .ok r' => (registerAll (ks.map fun k => .draft k.toDraft)).outcome stack (ofRisks m r.risks)
      = (.ok (), ofRisks m r'.risks)
  | .error e => ∃ r' : Registry σ,
      (registerAll (ks.map fun k => .draft k.toDraft)).outcome stack (ofRisks m r.risks)
        = (.error (.riskRefused e), ofRisks m r'.risks)
  := by
  induction ks generalizing r with
  | nil => rfl
  | cons k ks ih =>
    have hfirst := register_toDraft m r k stack
    rw [List.foldlM_cons, List.map_cons, outcome_registerAll_cons, hfirst]
    cases r.add k with
    | error e => exact ⟨r, rfl⟩
    | ok r₁ => exact ih r₁

/-- The registry of a configuration is that of the cabinet in which its risks are registered. -/
theorem registry_of_ofConfig
    {c : GateConfig} {r : Registry σ} (h : Registry.ofConfig c = .ok r) (m : Memory σ)
    (stack : Stack) :
  ∃ cabinet : Cabinet σ,
    (registerAll ((Risk.ofConfig c).map fun k => .draft k.toDraft)).outcome stack ⟨m, []⟩
      = (.ok (), cabinet)
    ∧ cabinet.registry r.positions = r
  := by
  have hrun := registerAll_toDraft m (Risk.ofConfig c) Registry.empty stack
  change (Risk.ofConfig c).foldlM Registry.add Registry.empty = .ok r at h
  rw [h] at hrun
  exact ⟨_, hrun, registry_ofRisks m r⟩

end Cabinet

/-! ### Histories -/

/-- What a caller does: it changes what its lists and iterators hold, or hands in a candidate. -/
inductive RegistryEvent (σ : Type) where
  | change (m : Memory σ)
  | handIn (x : Candidate σ)

/-- The cabinet after an event. -/
def Cabinet.step (c : Cabinet σ) : RegistryEvent σ → Cabinet σ
  | .change m => { c with memory := m }
  | .handIn x => ((register x).outcome [] c).2

/-- A run of a cabinet in which nothing was entered before. -/
structure RegistryHistory (σ : Type) where
  memory : Memory σ
  events : List (RegistryEvent σ)

namespace RegistryHistory

variable (h : RegistryHistory σ)

/-- The cabinet after the first `n` events. -/
def after (n : Nat) : Cabinet σ :=
  (h.events.take n).foldl Cabinet.step ⟨h.memory, []⟩

/-- The risks that are listed after the first `n` events. -/
def listed (n : Nat) : List (RiskDraft σ (List (CheckDraft σ))) :=
  (h.after n).listed

/-- The event at a place hands in a candidate. -/
def HandsIn (n : Nat) (x : Candidate σ) : Prop :=
  h.events[n]? = some (.handIn x)

/-- What a call at a place comes to. -/
def answer (n : Nat) (x : Candidate σ) : Except Fault Unit :=
  ((Cabinet.register x).outcome [] (h.after n)).1

/-- The event at a place hands in a draft that is entered with some checks. -/
def Enters (n : Nat) (d : RiskDraft σ (CheckSource σ)) (cs : List (Check σ)) : Prop :=
  h.HandsIn n (.draft d) ∧ (h.after n).Admits d cs

variable {h}

theorem after_succ
    {n : Nat} {x : RegistryEvent σ} (hx : h.events[n]? = some x) :
  h.after (n + 1) = (h.after n).step x
  := by
  simp [after, List.take_add_one, hx]

theorem after_succ_of_none
    {n : Nat} (hx : h.events[n]? = none) :
  h.after (n + 1) = h.after n
  := by
  simp [after, List.take_add_one, hx]

theorem Enters.cabinet_succ
    {n : Nat} {d : RiskDraft σ (CheckSource σ)} {cs : List (Check σ)} (hd : h.Enters n d cs) :
  h.answer n (.draft d) = (h.after n).lengthOf d.checks
    ∧ (h.after (n + 1)).schemas = (h.after n).schemas ++ [d.copy cs]
    ∧ (h.after (n + 1)).memory.lists = (h.after n).memory.lists
  := by
  obtain ⟨m, hrun, hlists⟩ := hd.2.outcome_register []
  rw [after_succ hd.1, Cabinet.step, answer, hrun]
  exact ⟨rfl, rfl, hlists⟩

theorem HandsIn.cabinet_succ
    {n : Nat} {x : Candidate σ} {e : Fault} (hx : h.HandsIn n x)
    (he : (h.after n).Refuses x e) :
  h.answer n x = .error e ∧ (h.after (n + 1)).schemas = (h.after n).schemas
    ∧ (h.after (n + 1)).memory.lists = (h.after n).memory.lists
  := by
  obtain ⟨m, hrun, hlists⟩ := he.outcome_register []
  rw [after_succ hx, Cabinet.step, answer, hrun]
  exact ⟨rfl, rfl, hlists⟩

/-- A call enters a draft, or it is refused. -/
theorem HandsIn.cases
    {n : Nat} {x : Candidate σ} (hx : h.HandsIn n x) :
  (∃ d cs, x = .draft d ∧ h.Enters n d cs) ∨ ∃ e, (h.after n).Refuses x e
  := by
  obtain he | ⟨d, cs, rfl, hd⟩ := (h.after n).refuses_or_admits x
  · exact .inr he
  · exact .inl ⟨d, cs, rfl, hx, hd⟩

/-- What an event does to the risks: a draft that is entered becomes the last one, and nothing
else changes them. -/
theorem schemas_succ
    (n : Nat) :
  (∃ d cs, h.Enters n d cs ∧ (h.after (n + 1)).schemas = (h.after n).schemas ++ [d.copy cs])
    ∨ ((∀ d cs, ¬ h.Enters n d cs) ∧ (h.after (n + 1)).schemas = (h.after n).schemas)
  := by
  -- What is entered makes the list longer, so it suffices to find the list unchanged.
  have hsame (heq : (h.after (n + 1)).schemas = (h.after n).schemas) :
      ∀ d cs, ¬ h.Enters n d cs := by
    intro d cs hd
    rw [hd.cabinet_succ.2.1, List.append_right_eq_self] at heq
    cases heq
  cases hx : h.events[n]? with
  | none =>
    have heq := congrArg Cabinet.schemas (after_succ_of_none hx)
    exact .inr ⟨hsame heq, heq⟩
  | some x =>
    cases x with
    | change m =>
      have heq := congrArg Cabinet.schemas (after_succ hx)
      exact .inr ⟨hsame heq, heq⟩
    | handIn x =>
      obtain ⟨d, cs, rfl, hd⟩ | ⟨e, he⟩ := HandsIn.cases (h := h) hx
      · exact .inl ⟨d, cs, hd, hd.cabinet_succ.2.1⟩
      · have heq := (HandsIn.cabinet_succ hx he).2.1
        exact .inr ⟨hsame heq, heq⟩

/-! ### Whole histories -/

theorem wellKept_after
    (n : Nat) :
  (h.after n).WellKept
  := by
  induction n with
  | zero => exact Cabinet.wellKept_nil h.memory
  | succ n ih =>
    obtain ⟨d, cs, hd, hschemas⟩ | ⟨-, hschemas⟩ := schemas_succ (h := h) n
    · exact ih.enter hd.2 hschemas
    · exact ih.congr hschemas

theorem listed_succ
    (n : Nat) :
  (∃ d cs, h.Enters n d cs ∧ h.listed (n + 1) = h.listed n ++ [d.withChecks cs])
    ∨ ((∀ d cs, ¬ h.Enters n d cs) ∧ h.listed (n + 1) = h.listed n)
  := by
  have hkept := wellKept_after (h := h) n
  obtain ⟨d, cs, hd, hschemas⟩ | ⟨hnone, hschemas⟩ := schemas_succ (h := h) n
  · exact .inl ⟨d, cs, hd, hkept.listed_concat hschemas⟩
  · exact .inr ⟨hnone, hkept.listed_eq hschemas⟩

/-- The risks are those that were entered, in the order of the places where they were. -/
theorem listed_eq
    (n : Nat) :
  ∃ places : List Nat, places.Pairwise (· < ·)
    ∧ (∀ p, p ∈ places ↔ p < n ∧ ∃ d cs, h.Enters p d cs)
    ∧ List.Forall₂ (fun p k => ∃ d cs, h.Enters p d cs ∧ k = d.withChecks cs) places (h.listed n)
  := by
  induction n with
  | zero =>
    use []
    simp [listed, after, Cabinet.listed]
  | succ n ih =>
    obtain ⟨places, hsorted, hplaces, henters⟩ := ih
    obtain ⟨d, cs, hd, hlisted⟩ | ⟨hnone, hlisted⟩ := listed_succ (h := h) n
    · use places ++ [n]
      refine ⟨?_, ?_, ?_⟩
      · apply List.pairwise_append.mpr
        use hsorted, List.pairwise_singleton _ _
        intro p hp q hq
        obtain rfl := List.mem_singleton.mp hq
        exact ((hplaces p).mp hp).1
      · intro p
        rw [List.mem_append, List.mem_singleton, hplaces]
        constructor
        · rintro (⟨hp, hacc⟩ | rfl)
          · use Nat.lt_succ_of_lt hp
          · use Nat.lt_succ_self p, d, cs
        · rintro ⟨hp, hacc⟩
          obtain hlt | rfl := Nat.lt_succ_iff_lt_or_eq.mp hp
          · left
            use hlt
          · right
            rfl
      · rw [hlisted]
        apply List.rel_append henters (.cons ⟨d, cs, hd, rfl⟩ .nil)
    · use places, hsorted
      refine ⟨?_, ?_⟩
      · intro p
        rw [hplaces]
        constructor
        · rintro ⟨hp, hacc⟩
          use Nat.lt_succ_of_lt hp
        · rintro ⟨hp, d, cs, hd⟩
          obtain hlt | rfl := Nat.lt_succ_iff_lt_or_eq.mp hp
          · use hlt, d, cs
          · exact absurd hd (hnone d cs)
      · rw [hlisted]
        apply henters

/-- Risks are only ever added, at the end. -/
theorem listed_prefix
    {m n : Nat} (hmn : m ≤ n) :
  h.listed m <+: h.listed n
  := by
  induction hmn with
  | refl => apply List.prefix_rfl
  | @step n _ ih =>
    apply ih.trans
    obtain ⟨d, cs, -, hlisted⟩ | ⟨-, hlisted⟩ := listed_succ (h := h) n
    · rw [hlisted]
      apply List.prefix_append
    · exact hlisted ▸ List.prefix_rfl

/-- A draft stays where it was entered. -/
theorem Enters.getElem?_listed
    {m n : Nat} {d : RiskDraft σ (CheckSource σ)} {cs : List (Check σ)} (hd : h.Enters m d cs)
    (hmn : m < n) :
  (h.listed n)[(h.listed m).length]? = some (d.withChecks cs)
  := by
  have hlisted := (wellKept_after m).listed_concat hd.cabinet_succ.2.1
  obtain ⟨rest, hrest⟩ := listed_prefix (h := h) (Nat.succ_le_of_lt hmn)
  rw [← hrest, listed, listed, hlisted]
  simp

/-- A draft that was entered under a name that is not broken is found under it. -/
theorem Enters.get_registry
    {m n : Nat} {d : RiskDraft σ (CheckSource σ)} {cs : List (Check σ)} (hd : h.Enters m d cs)
    (hmn : m < n) {s : String} (hname : d.name = .text s)
    (positions : List (String × OpenPosition)) :
  ((h.after n).registry positions).get (.text s)
    = .ok ⟨s, cs, d.note, d.onRejected, d.onAllowed⟩
  := by
  have hlisted : d.withChecks cs ∈ (h.after n).listed :=
    List.mem_of_getElem? (hd.getElem?_listed hmn)
  have hmem : (⟨s, cs, d.note, d.onRejected, d.onAllowed⟩ : Risk σ)
      ∈ ((h.after n).registry positions).risks :=
    List.mem_filterMap.mpr ⟨_, hlisted, RiskDraft.risk?_withChecks hname cs⟩
  exact Registry.get_of_mem ((wellKept_after n).nodup_registry positions) hmem

/-- A call succeeds if it enters a draft whose checks have a length. -/
theorem HandsIn.answer_eq_ok_iff
    {n : Nat} {x : Candidate σ} (hx : h.HandsIn n x) :
  h.answer n x = .ok () ↔ ∃ d cs, x = .draft d ∧ h.Enters n d cs
    ∧ (d.checks.length? (h.after n).memory).isSome
  := by
  constructor
  · intro hok
    obtain ⟨d, cs, rfl, hd⟩ | ⟨e, he⟩ := hx.cases
    · rw [hd.cabinet_succ.1, Cabinet.lengthOf_eq_ok_iff] at hok
      exact ⟨d, cs, rfl, hd, hok⟩
    · rw [(hx.cabinet_succ he).1] at hok
      cases hok
  · rintro ⟨d, cs, rfl, hd, hlength⟩
    rw [hd.cabinet_succ.1, Cabinet.lengthOf_eq_ok_iff]
    exact hlength

/-- A call that fails has changed the risks if it has entered a draft whose checks have no
length. -/
theorem HandsIn.schemas_ne_iff
    {n : Nat} {x : Candidate σ} {e : Fault} (hx : h.HandsIn n x) (he : h.answer n x = .error e) :
  (h.after (n + 1)).schemas ≠ (h.after n).schemas
    ↔ ∃ d cs, x = .draft d ∧ h.Enters n d cs ∧ d.checks.length? (h.after n).memory = none
  := by
  constructor
  · intro hne
    obtain ⟨d, cs, rfl, hd⟩ | ⟨e', he'⟩ := hx.cases
    · use d, cs, rfl, hd
      rw [hd.cabinet_succ.1] at he
      cases hlength : d.checks.length? (h.after n).memory with
      | none => rfl
      | some k =>
        rw [Cabinet.lengthOf, hlength] at he
        cases he
    · exact absurd (hx.cabinet_succ he').2.1 hne
  · rintro ⟨d, cs, rfl, hd, -⟩ heq
    rw [hd.cabinet_succ.2.1, List.append_right_eq_self] at heq
    cases heq

/-! ### The laws of registration -/

variable (h)

/-- A cabinet gains the risks that are entered and never changes otherwise. -/
structure OnlyGains : Prop where
  /-- The risks are those that were entered, in the order of the places where they were, each with
  the checks that it was entered with. -/
  order : ∀ n, ∃ places : List Nat, places.Pairwise (· < ·)
    ∧ (∀ p, p ∈ places ↔ p < n ∧ ∃ d cs, h.Enters p d cs)
    ∧ List.Forall₂ (fun p k => ∃ d cs, h.Enters p d cs ∧ k = d.withChecks cs) places (h.listed n)
  /-- Their names are distinct texts that are not empty. -/
  names : ∀ n, ((h.listed n).map fun k => k.name.points?).Nodup ∧ ∀ k ∈ h.listed n, k.isNamed = true
  /-- A call enters a draft, or it is refused for a flaw of what is handed in and changes
  nothing. -/
  calls : ∀ n x, h.HandsIn n x →
    (∃ d cs, x = .draft d ∧ h.Enters n d cs ∧ h.listed (n + 1) = h.listed n ++ [d.withChecks cs])
    ∨ ∃ e, (h.after n).Refuses x e ∧ h.answer n x = .error e
      ∧ (h.after (n + 1)).schemas = (h.after n).schemas
  /-- It succeeds exactly if it enters a draft whose checks have a length. -/
  successes : ∀ n x, h.HandsIn n x → (h.answer n x = .ok () ↔
    ∃ d cs, x = .draft d ∧ h.Enters n d cs ∧ (d.checks.length? (h.after n).memory).isSome)
  /-- A call that fails leaves the risks as they were, except if it enters a draft whose checks
  have no length. -/
  failures : ∀ n x e, h.HandsIn n x → h.answer n x = .error e →
    ((h.after (n + 1)).schemas ≠ (h.after n).schemas ↔
      ∃ d cs, x = .draft d ∧ h.Enters n d cs ∧ d.checks.length? (h.after n).memory = none)
  /-- A call leaves the lists of the caller as they were, and what else the caller does leaves the
  risks as they were. -/
  lists : ∀ n x, h.HandsIn n x → (h.after (n + 1)).memory.lists = (h.after n).memory.lists
  changes : ∀ n, (∀ x, ¬ h.HandsIn n x) → (h.after (n + 1)).schemas = (h.after n).schemas
  /-- A risk stays for ever, at its place and under its name, with the checks that it was entered
  with, and so do all that were there before. -/
  stays : ∀ m n d cs, h.Enters m d cs → m < n →
    (h.listed n)[(h.listed m).length]? = some (d.withChecks cs)
    ∧ ∀ s positions, d.name = .text s → ((h.after n).registry positions).get (.text s)
      = .ok ⟨s, cs, d.note, d.onRejected, d.onAllowed⟩
  before : ∀ m n, m ≤ n → h.listed m <+: h.listed n

theorem registry_only_gains :
  h.OnlyGains
  := by
  constructor
  case order => exact listed_eq
  case names =>
    intro n
    obtain ⟨-, hnamed, hdistinct⟩ := wellKept_after (h := h) n
    constructor
    · rw [listed, Cabinet.listed, List.map_map]
      exact hdistinct
    · rw [listed, Cabinet.listed, List.forall_mem_map]
      exact hnamed
  case calls =>
    intro n x hx
    obtain ⟨d, cs, rfl, hd⟩ | ⟨e, he⟩ := hx.cases
    · exact .inl ⟨d, cs, rfl, hd, (wellKept_after n).listed_concat hd.cabinet_succ.2.1⟩
    · exact .inr ⟨e, he, (hx.cabinet_succ he).1, (hx.cabinet_succ he).2.1⟩
  case successes => exact fun n x hx => hx.answer_eq_ok_iff
  case failures => exact fun n x e hx he => hx.schemas_ne_iff he
  case lists =>
    intro n x hx
    obtain ⟨d, cs, rfl, hd⟩ | ⟨e, he⟩ := hx.cases
    · exact hd.cabinet_succ.2.2
    · exact (hx.cabinet_succ he).2.2
  case changes =>
    intro n hnone
    obtain ⟨d, cs, hd, -⟩ | ⟨-, hschemas⟩ := schemas_succ (h := h) n
    · exact absurd hd.1 (hnone _)
    · exact hschemas
  case stays =>
    intro m n d cs hd hmn
    use hd.getElem?_listed hmn
    intro s positions hname
    exact hd.get_registry hmn hname positions
  case before => exact fun m n hmn => listed_prefix hmn

/-- A bare function that passes. -/
def passing : CheckDraft Nat :=
  .bare (some (.text "f")) fun _ => pure (.value .null)

/-- The draft of a risk named `a` whose checks are in a list of the caller. -/
def listDraft : RiskDraft Nat (CheckSource Nat) :=
  ⟨.text "a", .list 0, .null, none, none⟩

/-- A draft is entered with the function that its list holds.  It is handed in again after the
function was replaced by something that cannot be run, and then with an empty list. -/
def edited : RegistryHistory Nat where
  memory := ⟨fun _ => [passing], fun _ => []⟩
  events := [.handIn (.draft listDraft), .change ⟨fun _ => [.inert], fun _ => []⟩,
    .handIn (.draft listDraft), .change .empty, .handIn (.draft listDraft)]

/-- The risk still has the function, and the two other calls are refused. -/
theorem registry_only_gains_edited :
  edited.listed 5 = [listDraft.withChecks [⟨.text "f", fun _ => pure (.value .null)⟩]]
    ∧ edited.answer 2 (.draft listDraft) = .error (.riskRefused (.notRunnable (.text "a")))
    ∧ edited.answer 4 (.draft listDraft) = .error (.riskRefused (.duplicate (.text "a")))
    ∧ ((edited.after 5).registry []).get (.text "a")
      = .ok ⟨"a", [⟨.text "f", fun _ => pure (.value .null)⟩], .null, none, none⟩
  := by
  have hlaws := registry_only_gains edited
  have henters : edited.Enters 0 listDraft [⟨.text "f", fun _ => pure (.value .null)⟩] := by
    use rfl
    exact ⟨rfl, ⟨[passing], rfl, by simp [passing]⟩, rfl, .cons (.named _ _) .nil⟩
  use rfl, rfl, rfl
  exact (hlaws.stays 0 5 _ _ henters (by decide)).2 "a" [] rfl

/-- The draft of a risk named `b` whose checks are in an iterator of the caller. -/
def iteratorDraft : RiskDraft Nat (CheckSource Nat) :=
  ⟨.text "b", .iterator 0, .null, none, none⟩

/-- A draft is handed in with an iterator that gives one function. -/
def generated : RegistryHistory Nat where
  memory := ⟨fun _ => [], fun _ => [passing]⟩
  events := [.handIn (.draft iteratorDraft)]

/-- The call fails, and the risk is there, with no checks. -/
theorem failed_call_changes_registry :
  generated.HandsIn 0 (.draft iteratorDraft)
    ∧ generated.answer 0 (.draft iteratorDraft)
      = .error (.wrongKind "something with a length" "generator")
    ∧ generated.listed 0 = [] ∧ generated.listed 1 = [iteratorDraft.withChecks []]
  := ⟨rfl, rfl, rfl, rfl⟩

end RegistryHistory

end TradeGate
