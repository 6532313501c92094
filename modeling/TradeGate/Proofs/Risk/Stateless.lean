import TradeGate.Proofs.Risk.Evaluation

/-!
# Stateless rulings

An action is stateless if how it ends does not depend on the state that it acts on, whatever
it does to that state.  A ruling is what an evaluation decides while no risk is told: where
all checks are stateless, it is a function of the signal, the price, the time, the registry
and the frame.  An evaluation ends with its ruling, unless a callback cancels it.
-/

namespace TradeGate

variable {σ α β : Type}

/-- An action whose end does not depend on the state. -/
def Act.Stateless (a : Act σ α) : Prop :=
  ∀ stack s s', (a.outcome stack s).1 = (a.outcome stack s').1

namespace Act

theorem stateless_pure
    (x : α) :
  (pure x : Act σ α).Stateless
  := fun _ _ _ => rfl

theorem stateless_stack :
  (Act.stack : Act σ Stack).Stateless
  := fun _ _ _ => rfl

theorem stateless_ofExcept
    (r : Except Fault α) :
  (ofExcept r : Act σ α).Stateless
  := by
  intro stack s s'
  rw [outcome_ofExcept, outcome_ofExcept]

/-- Stateless actions one after the other are stateless. -/
theorem Stateless.bind
    {a : Act σ α} {f : α → Act σ β} (ha : a.Stateless) (hf : ∀ x, (f x).Stateless) :
  (a >>= f).Stateless
  := by
  intro stack s s'
  have hsame := ha stack s s'
  rw [outcome_bind, outcome_bind]
  rcases hs : a.outcome stack s with ⟨e | x, t⟩
  · rcases hs' : a.outcome stack s' with ⟨e' | x', t'⟩
    · rw [hs, hs'] at hsame
      exact congrArg Except.error (Except.error.inj hsame)
    · simp [hs, hs'] at hsame
  · rcases hs' : a.outcome stack s' with ⟨e' | x', t'⟩
    · simp [hs, hs'] at hsame
    · rw [hs, hs'] at hsame
      obtain rfl := Except.ok.inj hsame
      apply hf

end Act

theorem Check.stateless_find
    {c : Check σ} (hc : ∀ i, (c.run i).Stateless) (i : Inspection) :
  (c.find i).Stateless
  := by
  intro stack s s'
  rw [outcome_find, outcome_find, hc i stack s s']

/-! ### Callbacks -/

theorem Fault.eq_cancelled
    {e : Fault} (h : e.isOrdinary = false) :
  e = .cancelled
  := by
  cases e <;> first | rfl | cases h

/-- With its ordinary faults absorbed, an action ends well or is cancelled. -/
theorem Act.absorb_cases
    (a : Act σ Unit) (stack : Stack) (s : σ) :
  (a.absorb.outcome stack s).1 = .ok ()
    ∨ (a.absorb.outcome stack s).1 = .error .cancelled
      ∧ (a.outcome stack s).1 = .error .cancelled
  := by
  rw [outcome_absorb]
  rcases a.outcome stack s with ⟨e | x, s'⟩
  · cases he : e.isOrdinary with
    | true =>
      left
      simp [he]
    | false =>
      right
      simp [Fault.eq_cancelled he, Fault.isOrdinary]
  · left
    rfl

/-- A callback that may be missing ends well or is cancelled. -/
theorem callback_cases
    (a : Option (Act σ Unit)) (stack : Stack) (s : σ) :
  ((callback a).outcome stack s).1 = .ok () ∨ ((callback a).outcome stack s).1 = .error .cancelled
  := by
  cases a with
  | none =>
    left
    rfl
  | some a => apply (a.absorb_cases stack s).imp_right And.left

namespace Registry

theorem notifyAllowed_cases
    (symbol : String) (i : Inspection) (ks : List (Risk σ)) (stack : Stack) (s : σ) :
  ((notifyAllowed symbol i ks).outcome stack s).1 = .ok ()
    ∨ ((notifyAllowed symbol i ks).outcome stack s).1 = .error .cancelled
  := by
  induction ks generalizing s with
  | nil =>
    left
    rfl
  | cons k ks ih =>
    rw [notifyAllowed, Act.outcome_bind, Risk.notifyAllowed_eq]
    have hcases := callback_cases (k.onAdmission symbol i) stack s
    rcases hrun : (callback (k.onAdmission symbol i)).outcome stack s with ⟨e | x, s'⟩
    · right
      rw [hrun] at hcases
      obtain h | h := hcases
      · cases h
      · exact h
    · apply ih

/-! ### Rulings -/

/-- The decision on a signal at the current price and time, while no risk is told. -/
def ruling (r : Registry σ) (signal : Signal) (price timestamp : Value) : Act σ Decision := do
  let i ← Act.ofExcept (r.inspectAt (← Act.stack).current signal price timestamp)
  match ← firstFailure i r.checks with
  | some (k, reason) =>
    Act.ofExcept (decide i.signal
      [("verdict", .text Verdict.rejected.word), ("risk_name", .text k.name),
        ("reason", reason), ("timestamp", timestampFor signal timestamp)])
  | none =>
    Act.ofExcept (decide i.signal
      [("verdict", .text Verdict.admitted.word), ("timestamp", timestampFor signal timestamp)])

/-- An action after callbacks ends as it would without them, unless one of them cancels
it. -/
theorem outcome_after_callbacks
    {a : Act σ Unit} {stack : Stack} {s : σ}
    (ha : (a.outcome stack s).1 = .ok () ∨ (a.outcome stack s).1 = .error .cancelled)
    (r : Except Fault α) :
  ((a >>= fun _ => Act.ofExcept r).outcome stack s).1 = r
    ∨ ((a >>= fun _ => Act.ofExcept r).outcome stack s).1 = .error .cancelled
  := by
  rw [Act.outcome_bind]
  rcases hrun : a.outcome stack s with ⟨e | x, s'⟩
  · right
    rw [hrun] at ha
    obtain h | h := ha
    · cases h
    · rw [Except.error.inj h]
  · left
    dsimp only
    rw [Act.outcome_ofExcept]

/-- An evaluation ends with its ruling, unless a callback cancels it. -/
theorem evaluate_cases
    (r : Registry σ) (signal : Signal) (price timestamp : Value) (stack : Stack) (s : σ) :
  ((r.evaluate signal price timestamp).outcome stack s).1
      = ((r.ruling signal price timestamp).outcome stack s).1
    ∨ ((r.evaluate signal price timestamp).outcome stack s).1 = .error .cancelled
  := by
  simp only [evaluate, ruling, judge, Act.outcome_bind, Act.outcome_stack, Act.outcome_ofExcept]
  rcases r.inspectAt stack.current signal price timestamp with e | i
  · left
    rfl
  · dsimp only
    rcases (firstFailure i r.checks).outcome stack s with ⟨e | _ | ⟨k, reason⟩, s'⟩
    · left
      rfl
    · dsimp only
      rw [Act.outcome_ofExcept]
      apply outcome_after_callbacks (notifyAllowed_cases _ _ _ _ _)
    · dsimp only
      rw [Act.outcome_ofExcept, Risk.notifyRejected_eq]
      apply outcome_after_callbacks (callback_cases _ _ _)

theorem stateless_firstFailure
    {cs : List (Risk σ × Check σ)} (hcs : ∀ p ∈ cs, ∀ i, (p.2.run i).Stateless)
    (i : Inspection) :
  (firstFailure i cs).Stateless
  := by
  induction cs with
  | nil => apply Act.stateless_pure
  | cons p cs ih =>
    obtain ⟨k, c⟩ := p
    obtain ⟨hc, hcs⟩ := List.forall_mem_cons.mp hcs
    apply (Check.stateless_find hc i).bind
    intro f
    split
    · apply ih hcs
    · apply Act.stateless_pure

/-- Over stateless checks a ruling is stateless. -/
theorem stateless_ruling
    {r : Registry σ} (hr : ∀ k ∈ r.risks, ∀ c ∈ k.checks, ∀ i, (c.run i).Stateless)
    (signal : Signal) (price timestamp : Value) :
  (r.ruling signal price timestamp).Stateless
  := by
  apply Act.stateless_stack.bind
  intro stack
  apply (Act.stateless_ofExcept _).bind
  intro i
  have hfirst : (firstFailure i r.checks).Stateless := by
    apply stateless_firstFailure
    intro p hp
    obtain ⟨hk, hc⟩ := mem_checks.mp hp
    apply hr _ hk _ hc
  apply hfirst.bind
  rintro (_ | ⟨k, reason⟩) <;> apply Act.stateless_ofExcept

end Registry

end TradeGate
