import TradeGate.Proofs.Pipeline.Stage
import TradeGate.Proofs.Risk.Evaluation

/-!
# What the injected functions keep

An action keeps a property of the state if the property holds after the action wherever it held
before, whether the action ends with a result or with a fault.  Whatever all injected functions
keep of the world, and all checks and callbacks of the registry, every stage of a tick keeps; the
properties come in families, such as the values that a count may have.
-/

namespace TradeGate

/-- The property holds after the action wherever it held before. -/
def Act.Keeps {τ α : Type} (P : τ → Prop) (a : Act τ α) : Prop :=
  ∀ stack s, P s → P (a.outcome stack s).2

namespace Act

variable {τ α β : Type} {P : τ → Prop}

theorem keeps_pure
    (x : α) :
  (pure x : Act τ α).Keeps P
  := fun _ _ hs => hs

theorem keeps_throw
    (e : Fault) :
  (throw e : Act τ α).Keeps P
  := fun _ _ hs => hs

theorem keeps_ofExcept
    (r : Except Fault α) :
  (ofExcept r : Act τ α).Keeps P
  := by
  intro stack s hs
  rwa [outcome_ofExcept]

theorem Keeps.bind
    {a : Act τ α} {f : α → Act τ β} (ha : a.Keeps P) (hf : ∀ x, (f x).Keeps P) :
  (a >>= f).Keeps P
  := by
  intro stack s hs
  rw [outcome_bind]
  have h := ha stack s hs
  rcases hrun : a.outcome stack s with ⟨e | x, s'⟩
  · rwa [hrun] at h
  · rw [hrun] at h
    apply hf x stack s' h

theorem Keeps.tryCatch
    {a : Act τ α} {f : Fault → Act τ α} (ha : a.Keeps P) (hf : ∀ e, (f e).Keeps P) :
  (tryCatch a f : Act τ α).Keeps P
  := by
  intro stack s hs
  rw [outcome_tryCatch]
  have h := ha stack s hs
  rcases hrun : a.outcome stack s with ⟨e | x, s'⟩
  · rw [hrun] at h
    apply hf e stack s' h
  · rwa [hrun] at h

/-- An action that looks at the state may rely on what is to be kept. -/
theorem keeps_get_bind
    {f : τ → Act τ α} (hf : ∀ s, P s → (f s).Keeps P) :
  ((get : Act τ τ) >>= f).Keeps P
  := by
  intro stack s hs
  rw [outcome_bind, outcome_get]
  apply hf s hs stack s hs

theorem Keeps.absorb
    {a : Act τ Unit} (ha : a.Keeps P) :
  a.absorb.Keeps P
  := by
  intro stack s hs
  rw [snd_outcome_absorb]
  apply ha stack s hs

end Act

variable {ι σ : Type} {P : σ → Prop}

/-! ### Registries -/

/-- A risk whose checks and callbacks keep a property. -/
structure Risk.Keeps (P : σ → Prop) (k : Risk σ) : Prop where
  checks : ∀ c ∈ k.checks, ∀ i, (c.run i).Keeps P
  rejection : ∀ symbol reason i, ∀ a ∈ k.onRejection symbol reason i, a.Keeps P
  admission : ∀ symbol i, ∀ a ∈ k.onAdmission symbol i, a.Keeps P

theorem keeps_callback
    {a : Option (Act σ Unit)} (ha : ∀ b ∈ a, b.Keeps P) :
  (callback a).Keeps P
  := by
  cases a with
  | none => apply Act.keeps_pure
  | some b => exact (ha b rfl).absorb

namespace Registry

/-- A registry all of whose risks keep a property. -/
def Keeps (P : σ → Prop) (r : Registry σ) : Prop :=
  ∀ k ∈ r.risks, k.Keeps P

theorem keeps_firstFailure
    (i : Inspection) {cs : List (Risk σ × Check σ)} (hcs : ∀ p ∈ cs, (p.2.run i).Keeps P) :
  (firstFailure i cs).Keeps P
  := by
  induction cs with
  | nil => apply Act.keeps_pure
  | cons p cs ih =>
    obtain ⟨k, c⟩ := p
    obtain ⟨hc, hcs⟩ := List.forall_mem_cons.mp hcs
    have hfind : (c.find i).Keeps P := by
      intro stack s hs
      rw [Check.outcome_find]
      apply hc stack s hs
    apply hfind.bind
    intro f
    split
    · apply ih hcs
    · apply Act.keeps_pure

/-- The first failure is that of a check of the list. -/
theorem mem_of_firstFailure
    {i : Inspection} {cs : List (Risk σ × Check σ)} {stack : Stack} {s s' : σ} {k : Risk σ}
    {reason : Value}
    (h : (firstFailure i cs).outcome stack s = (.ok (some (k, reason)), s')) :
  ∃ c, (k, c) ∈ cs
  := by
  induction cs generalizing s with
  | nil => cases h
  | cons p cs ih =>
    obtain ⟨k', c⟩ := p
    rw [firstFailure, Act.outcome_bind] at h
    rcases hfind : (c.find i).outcome stack s with ⟨e | f, s₁⟩
    · rw [hfind] at h
      cases h
    · rw [hfind] at h
      cases hf : f.isPass with
      | true =>
        simp only [hf, if_true] at h
        obtain ⟨c', hc'⟩ := ih h
        exact ⟨c', List.mem_cons_of_mem _ hc'⟩
      | false =>
        simp only [hf, Bool.false_eq_true, if_false] at h
        cases h
        exact ⟨c, List.mem_cons_self⟩

theorem keeps_notifyAllowed
    (symbol : String) (i : Inspection) {ks : List (Risk σ)} (hks : ∀ k ∈ ks, k.Keeps P) :
  (notifyAllowed symbol i ks).Keeps P
  := by
  induction ks with
  | nil => apply Act.keeps_pure
  | cons k ks ih =>
    obtain ⟨hk, hks⟩ := List.forall_mem_cons.mp hks
    apply Act.Keeps.bind
    · rw [Risk.notifyAllowed_eq]
      apply keeps_callback (hk.admission symbol i)
    · intro _
      apply ih hks

/-- An evaluation keeps what the checks and callbacks keep. -/
theorem Keeps.evaluate
    {r : Registry σ} (hr : r.Keeps P) (signal : Signal) (price timestamp : Value) :
  (r.evaluate signal price timestamp).Keeps P
  := by
  have hstack : (Act.stack : Act σ Stack).Keeps P := fun _ _ hs => hs
  have hchecks (i : Inspection) : ∀ p ∈ r.checks, p.1.Keeps P ∧ (p.2.run i).Keeps P := by
    intro p hp
    obtain ⟨hk, hc⟩ := mem_checks.mp hp
    use hr _ hk
    apply (hr _ hk).checks _ hc
  -- the risk in whose name a signal is rejected is one of the registry
  have hjudge (i : Inspection) (t : Value) : (r.judge i t).Keeps P := by
    intro stack s hs
    have hfirst := keeps_firstFailure i (fun p hp => (hchecks i p hp).2) stack s hs
    rw [judge, Act.outcome_bind]
    rcases hrun : (firstFailure i r.checks).outcome stack s with ⟨e | _ | ⟨k, reason⟩, s'⟩
    · rwa [hrun] at hfirst
    · rw [hrun] at hfirst
      apply ((keeps_notifyAllowed _ i hr).bind _) stack s' hfirst
      intro _
      apply Act.keeps_ofExcept
    · rw [hrun] at hfirst
      obtain ⟨c, hc⟩ := mem_of_firstFailure hrun
      have hrejection := (hchecks i _ hc).1.rejection i.signal.symbol reason i
      apply Act.Keeps.bind _ _ stack s' hfirst
      · rw [Risk.notifyRejected_eq]
        apply keeps_callback hrejection
      · intro _
        apply Act.keeps_ofExcept
  unfold Registry.evaluate
  apply hstack.bind
  intro stack
  apply Act.Keeps.bind
  · apply Act.keeps_ofExcept
  · intro i
    apply hjudge i _

end Registry

/-! ### Stages of a tick -/

variable {ν : Type} {P : ν → σ → Prop} {n : ν}

/-- One property of a family holds of the world, and all risks of the registry keep every
property of the family. -/
structure Desk.Holds (P : ν → σ → Prop) (n : ν) (d : Desk ι σ) : Prop where
  registry : ∀ m, d.registry.Keeps (P m)
  world : P n d.world

namespace Desk

/-- An action of the injected functions leaves the registry alone. -/
theorem keeps_lift
    {α : Type} {a : Act σ α} (ha : a.Keeps (P n)) :
  (lift a : Act (Desk ι σ) α).Keeps (Holds P n)
  := fun stack d hd => ⟨hd.registry, ha stack d.world hd.world⟩

theorem Holds.serve
    {d : Desk ι σ} (hd : d.Holds P n) (stack : Stack) (symbol : String) (now : Int) :
  (d.serve stack symbol now).2.Holds P n
  := by
  obtain ⟨e, -, v, stats, -, -, -, -, hserve⟩ | ⟨e, -, stats, -, -, -, -, hserve⟩ | ⟨-, hserve⟩ :=
    d.serve_cases stack symbol now
  · rw [hserve]
    exact ⟨hd.registry, hd.world⟩
  · rw [hserve]
    exact ⟨hd.registry, hd.world⟩
  · rw [hserve]
    exact ⟨hd.registry, hd.world⟩

end Desk

namespace Pipeline

/-- A pipeline whose functions keep the properties of a family, and whose subscribers leave risks
that keep them. -/
structure Keeps (P : ν → σ → Prop) (p : Pipeline ι σ) : Prop where
  clock : ∀ n, p.clock.Keeps (P n)
  indicator : ∀ n symbol, (p.indicator symbol).Keeps (P n)
  builder : ∀ n tick indicators, (p.builder tick indicators).Keeps (P n)
  tell : ∀ n s dec, (p.tell s dec).Keeps (Desk.Holds P n)

variable {p : Pipeline ι σ} (hp : p.Keeps P)

include hp

theorem Keeps.ask
    (n : ν) (symbol : String) :
  (p.ask symbol).Keeps (Desk.Holds P n)
  := by
  have hreading : p.reading.Keeps (Desk.Holds P n) := by
    apply (Desk.keeps_lift (hp.clock n)).bind
    intro x
    apply Act.keeps_ofExcept
  intro stack d hd
  rw [outcome_ask]
  have h := hreading stack d hd
  rcases hread : p.reading.outcome stack d with ⟨e | now, d'⟩
  · rwa [hread] at h
  · rw [hread] at h
    apply h.serve stack symbol now

theorem Keeps.notify
    (n : ν) (dec : Decision) :
  (p.notify dec).Keeps (Desk.Holds P n)
  := by
  have hfrom (fuel k : Nat) : (p.notifyFrom dec fuel k).Keeps (Desk.Holds P n) := by
    induction fuel generalizing k with
    | zero => apply Act.keeps_pure
    | succ fuel ih =>
      apply Act.keeps_get_bind
      intro d _
      split
      · apply Act.keeps_pure
      · apply (hp.tell n _ dec).absorb.bind
        intro _
        apply ih (k + 1)
  apply Act.keeps_get_bind
  intro d _
  apply hfrom _ 0

theorem Keeps.conclude
    (n : ν) (tick : Tick) (indicators : Value) :
  (p.conclude tick indicators).Keeps (Desk.Holds P n)
  := by
  apply (Desk.keeps_lift (hp.builder n tick indicators)).bind
  intro s
  cases s with
  | none => apply Act.keeps_pure
  | some s =>
    apply Act.keeps_get_bind
    intro d hd
    apply (Desk.keeps_lift ((hd.registry n).evaluate s _ _)).bind
    intro dec
    apply (hp.notify n dec).bind
    intro _
    apply Act.keeps_pure

theorem Keeps.receive
    (n : ν) (tick : Tick) (key : String) (window : Int) (o : Outcome Value) :
  (p.receive tick key window o).Keeps (Desk.Holds P n)
  := by
  cases o with
  | value v => apply hp.conclude n tick v
  | failure e => apply Act.keeps_throw
  | cancelled => apply Act.keeps_throw

/-- So does the work that is due. -/
theorem Keeps.work
    {d : Desk ι σ} (hd : d.Holds P n) :
  (p.work d).Holds P n
  := by
  have hcompute (due : Due) {d : Desk ι σ} (hd : d.Holds P n) : (p.compute due d).Holds P n :=
    ⟨hd.registry, hp.indicator n due.symbol due.stack d.world hd.world⟩
  have hfold (dues : List Due) {d : Desk ι σ} (hd : d.Holds P n) :
      (dues.foldl (fun d due => p.compute due d) d).Holds P n := by
    induction dues generalizing d with
    | nil => apply hd
    | cons due dues ih => apply ih (hcompute due hd)
  exact hfold d.queue ⟨hd.registry, hd.world⟩

end Pipeline

end TradeGate
