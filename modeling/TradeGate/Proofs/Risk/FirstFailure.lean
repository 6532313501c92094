import TradeGate.Proofs.Risk.Evaluation
import TradeGate.Proofs.Risk.Recording

/-!
# The first failure decides

The recorded registry tells what an evaluation calls: the checks of all risks in order up
to the first that objects, each once, and then the callback of its risk for the rejection,
or, if none objects, the callbacks of all risks for the admission.
-/

namespace TradeGate

variable {σ : Type} {stack : Stack} {i : Inspection}

/-! ### Recorded callbacks and checks -/

/-- The checks of a list that all support the signal are each asked once, in order, and
about the same inspection. -/
theorem Passed.recorded
    {cs : List (Risk σ × Check σ)} {s s' : σ} (h : Passed stack i cs s s')
    (calls : List (RiskCall σ)) :
  Passed stack i (cs.map fun p => (p.1.recorded, p.2.recorded p.1)) (s, calls)
    (s', calls ++ cs.map fun p => .asked p.1 p.2 i)
  := by
  induction h generalizing calls with
  | nil s =>
    rw [List.map_nil, List.map_nil, List.append_nil]
    apply Passed.nil
  | @cons k c rest r s s' s'' hrun hr _ ih =>
    have hrest := ih (calls ++ [.asked k c i])
    rw [List.append_assoc] at hrest
    apply Passed.cons _ hr hrest
    simp [Check.recorded, hrun]

/-- Recording does not change how an action ends. -/
theorem Act.IsOrdinary.recorded
    {a : Act σ Unit} (ha : a.IsOrdinary) (line : RiskCall σ) :
  (a.recorded line).IsOrdinary
  := by
  rintro stack ⟨s, calls⟩ e he
  apply ha stack s e
  simpa using he

/-- A recorded callback is ordinary like the callback itself. -/
theorem isOrdinary_of_mem_map_recorded
    {a : Option (Act σ Unit)} (ha : ∀ b ∈ a, b.IsOrdinary) (line : RiskCall σ) :
  ∀ b ∈ a.map (Act.recorded line), b.IsOrdinary
  := by
  intro b hb
  obtain ⟨c, hc, rfl⟩ := Option.map_eq_some_iff.mp hb
  apply (ha c hc).recorded

/-- A recorded callback leaves the state that the callback leaves, and a line. -/
theorem stateAfter_map_recorded
    (line : RiskCall σ) (a : Option (Act σ Unit)) (stack : Stack) (s : σ)
    (calls : List (RiskCall σ)) :
  stateAfter stack (s, calls) (a.map (Act.recorded line))
    = (stateAfter stack s a, calls ++ (a.map fun _ => line).toList)
  := by
  cases a <;> simp [stateAfter]

namespace Risk

/-- The call that tells a risk of a rejection, if it has a callback for it. -/
def rejectionCall (k : Risk σ) (symbol : String) (reason : Value) (i : Inspection) :
    Option (RiskCall σ) :=
  k.onRejected.map fun _ => .rejected k symbol reason i

/-- The call that tells a risk of an admission, if it has a callback for it. -/
def admissionCall (k : Risk σ) (symbol : String) (i : Inspection) : Option (RiskCall σ) :=
  k.onAllowed.map fun _ => .allowed k symbol i

theorem onRejection_recorded
    (k : Risk σ) (symbol : String) (reason : Value) (i : Inspection) :
  k.recorded.onRejection symbol reason i
    = (k.onRejection symbol reason i).map (Act.recorded (.rejected k symbol reason i))
  := by
  unfold onRejection recorded
  cases k.onRejected <;> rfl

theorem onAdmission_recorded
    (k : Risk σ) (symbol : String) (i : Inspection) :
  k.recorded.onAdmission symbol i
    = (k.onAdmission symbol i).map (Act.recorded (.allowed k symbol i))
  := by
  unfold onAdmission recorded
  cases k.onAllowed <;> rfl

/-- A recorded risk that is told of a rejection writes it down, if it has a callback. -/
theorem stateAfter_onRejection_recorded
    (k : Risk σ) (symbol : String) (reason : Value) (i : Inspection) (stack : Stack) (s : σ)
    (calls : List (RiskCall σ)) :
  stateAfter stack (s, calls) (k.recorded.onRejection symbol reason i)
    = (stateAfter stack s (k.onRejection symbol reason i),
        calls ++ (k.rejectionCall symbol reason i).toList)
  := by
  rw [onRejection_recorded, stateAfter_map_recorded, onRejection, Option.map_map]
  rfl

theorem stateAfter_onAdmission_recorded
    (k : Risk σ) (symbol : String) (i : Inspection) (stack : Stack) (s : σ)
    (calls : List (RiskCall σ)) :
  stateAfter stack (s, calls) (k.recorded.onAdmission symbol i)
    = (stateAfter stack s (k.onAdmission symbol i),
        calls ++ (k.admissionCall symbol i).toList)
  := by
  rw [onAdmission_recorded, stateAfter_map_recorded, onAdmission, Option.map_map]
  rfl

end Risk

/-- All recorded risks that have a callback for admissions write down that they are told,
in order. -/
theorem foldl_stateAfter_recorded
    (symbol : String) (i : Inspection) (ks : List (Risk σ)) (stack : Stack) (s : σ)
    (calls : List (RiskCall σ)) :
  (ks.map Risk.recorded).foldl
      (fun s k => stateAfter stack s (k.onAdmission symbol i)) (s, calls)
    = (ks.foldl (fun s k => stateAfter stack s (k.onAdmission symbol i)) s,
        calls ++ ks.filterMap fun k => k.admissionCall symbol i)
  := by
  induction ks generalizing s calls with
  | nil => simp
  | cons k ks ih =>
    rw [List.map_cons, List.foldl_cons, Risk.stateAfter_onAdmission_recorded, ih,
      List.foldl_cons, List.append_assoc]
    cases h : k.admissionCall symbol i <;> simp [h]

/-! ### Recorded evaluations -/

namespace Registry

variable {r : Registry σ} {signal : Signal} {price timestamp : Value} {s s₁ s₂ : σ}

/-- The checks of a registry of ordinary risks are ordinary. -/
theorem isOrdinary_of_mem_checks
    (hr : ∀ k ∈ r.risks, k.IsOrdinary) :
  ∀ p ∈ r.checks, p.1 ∈ r.risks ∧ p.2.IsOrdinary
  := by
  intro p hp
  obtain ⟨hk, hc⟩ := mem_checks.mp hp
  use hk
  apply (hr _ hk).checks _ hc

/-- If all checks support the signal, all of them are asked, and all risks that have a
callback for it are told of the admission. -/
theorem outcome_evaluate_recorded_of_passed
    (hr : ∀ k ∈ r.risks, k.IsOrdinary)
    (hi : r.inspectAt stack.current signal price timestamp = .ok i)
    (hpassed : Passed stack i r.checks s s₁) :
  (r.recorded.evaluate signal price timestamp).outcome stack (s, [])
    = (.ok (.admission i.signal i.timestamp),
        r.risks.foldl (fun s k => stateAfter stack s (k.onAdmission i.signal.symbol i)) s₁,
        r.checks.map (fun p => .asked p.1 p.2 i)
          ++ r.risks.filterMap fun k => k.admissionCall i.signal.symbol i)
  := by
  have hi' : r.recorded.inspectAt stack.current signal price timestamp = .ok i := hi
  have hr' : ∀ k ∈ r.recorded.risks, ∀ a ∈ k.onAdmission i.signal.symbol i, a.IsOrdinary := by
    intro k' hk'
    obtain ⟨k, hk, rfl⟩ := List.mem_map.mp hk'
    rw [Risk.onAdmission_recorded]
    apply isOrdinary_of_mem_map_recorded ((hr k hk).admission _ _)
  have hpassed' := hpassed.recorded []
  rw [← checks_recorded, List.nil_append] at hpassed'
  rw [outcome_evaluate_of_passed hi' hr' hpassed', recorded, foldl_stateAfter_recorded]

/-- If a check objects after others that support the signal, these checks are asked, and
its risk is told of the rejection, if it has a callback for it. -/
theorem outcome_evaluate_recorded_of_objects
    (hi : r.inspectAt stack.current signal price timestamp = .ok i)
    {before rest : List (Risk σ × Check σ)} {k : Risk σ} {c : Check σ} {note own : String}
    {x : Except Fault Answer} (hk : k.IsOrdinary)
    (hsplit : r.checks = before ++ (k, c) :: rest) (hpassed : Passed stack i before s s₁)
    (hnote : c.note = .text note) (hrun : (c.run i).outcome stack s₁ = (x, s₂))
    (hobjects : Objects x own) :
  (r.recorded.evaluate signal price timestamp).outcome stack (s, [])
    = (.ok (.rejection i.signal k.name (reasonFor own note) i.timestamp),
        stateAfter stack s₂ (k.onRejection i.signal.symbol (.text (reasonFor own note)) i),
        (before ++ [(k, c)]).map (fun p => .asked p.1 p.2 i)
          ++ (k.rejectionCall i.signal.symbol (.text (reasonFor own note)) i).toList)
  := by
  have hi' : r.recorded.inspectAt stack.current signal price timestamp = .ok i := hi
  have hpassed' := hpassed.recorded []
  have hsplit' := r.checks_recorded
  rw [hsplit, List.map_append, List.map_cons] at hsplit'
  have hrun' : ((c.recorded k).run i).outcome stack
      (s₁, [] ++ before.map fun p => .asked p.1 p.2 i)
    = (x, s₂, (before ++ [(k, c)]).map fun p => .asked p.1 p.2 i) := by
    simp [Check.recorded, hrun]
  have hk' : ∀ a ∈ k.recorded.onRejection i.signal.symbol (.text (reasonFor own note)) i,
      a.IsOrdinary := by
    rw [Risk.onRejection_recorded]
    apply isOrdinary_of_mem_map_recorded (hk.rejection _ _ _)
  rw [outcome_evaluate_of_objects hi' hk' hsplit' hpassed' hnote hrun' hobjects,
    Risk.stateAfter_onRejection_recorded]
  rfl

/-- An evaluation asks the checks of all risks in order, each once and about the same
inspection, up to the first that objects, and none after it.  If one objects, then the
signal is rejected in the name of its risk, for the reason that it gives, or else its
note, or else the default reason, and of all risks that risk alone is told, once.  If none
objects, and only then, the signal is admitted, and all risks are told in order, each
once.  An ordinary fault of a callback does not change the decision. -/
theorem evaluate_decides_by_first_failure
    (hr : ∀ k ∈ r.risks, k.IsOrdinary)
    (hi : r.inspectAt stack.current signal price timestamp = .ok i) (s : σ) :
  ∃ d s' calls, (r.evaluate signal price timestamp).outcome stack s = (.ok d, s')
    ∧ (r.recorded.evaluate signal price timestamp).outcome stack (s, []) = (.ok d, s', calls)
    ∧ (d.verdict = .admitted ↔ ∃ s₁, Passed stack i r.checks s s₁)
    ∧ (d = .admission i.signal i.timestamp
        ∧ calls = r.checks.map (fun p => .asked p.1 p.2 i)
          ++ r.risks.filterMap (fun k => k.admissionCall i.signal.symbol i)
      ∨ ∃ before k c rest x own note s₁ s₂, r.checks = before ++ (k, c) :: rest
        ∧ Passed stack i before s s₁ ∧ (c.run i).outcome stack s₁ = (x, s₂) ∧ Objects x own
        ∧ c.note = .text note ∧ reasonFor own note ≠ ""
        ∧ d = .rejection i.signal k.name (reasonFor own note) i.timestamp
        ∧ calls = (before ++ [(k, c)]).map (fun p => .asked p.1 p.2 i)
          ++ (k.rejectionCall i.signal.symbol (.text (reasonFor own note)) i).toList)
  := by
  have hchecks := isOrdinary_of_mem_checks hr
  obtain ⟨s₁, hpassed⟩ | ⟨before, k, c, rest, x, own, s₁, s₂, hsplit, hbefore, hrun, hx⟩ :=
    passed_or_objects stack i (fun p hp => (hchecks p hp).2) s
  · have hplain := outcome_evaluate_of_passed hi
      (fun k hk => (hr k hk).admission i.signal.symbol i) hpassed
    have hrecorded := outcome_evaluate_recorded_of_passed hr hi hpassed
    refine ⟨_, _, _, hplain, hrecorded, ?_, .inl ⟨rfl, rfl⟩⟩
    constructor
    · intro _
      use s₁
    · intro _
      rfl
  · have hmem : (k, c) ∈ r.checks := by simp [hsplit]
    obtain ⟨hk, hc⟩ := hchecks (k, c) hmem
    obtain ⟨note, hnote⟩ := hc.note
    have hplain := outcome_evaluate_of_objects hi ((hr k hk).rejection _ _ _) hsplit hbefore
      hnote hrun hx
    have hrecorded := outcome_evaluate_recorded_of_objects hi (hr k hk) hsplit hbefore hnote
      hrun hx
    refine ⟨_, _, _, hplain, hrecorded, ?_, .inr ?_⟩
    · constructor
      · rintro ⟨⟩
      · intro h
        rw [hsplit] at h
        exact absurd h (hx.not_passed hbefore hrun)
    · use before, k, c, rest, x, own, note, s₁, s₂, hsplit, hbefore, hrun, hx, hnote
      use reasonFor_ne_empty own note, rfl

/-- Two risks, of which the second objects without words of its own or a note, and fails
when it is told so. -/
def closedHours : Registry Unit where
  risks :=
    [⟨"limits", [⟨.text "room for one more", fun _ => pure (.value .null)⟩], .text "", none,
      some fun _ _ => pure ()⟩,
    ⟨"hours", [⟨.text "", fun _ => throw (.raised "ValueError" none)⟩], .text "",
      some fun _ _ _ => throw .exhausted, none⟩]
  positions := []

/-- A signal that leaves its open price to the market. -/
def buyAtMarket : Signal :=
  ⟨"BTC", .long, .ofInt 120, .ofInt 90, none, none, ""⟩

theorem isOrdinary_of_mem_closedHours :
  ∀ k ∈ closedHours.risks, k.IsOrdinary
  := by
  intro k hk
  simp only [closedHours, List.mem_cons, List.not_mem_nil, or_false] at hk
  obtain rfl | rfl := hk
  · constructor
    · intro c hc
      obtain rfl := List.mem_singleton.mp hc
      use ⟨_, rfl⟩
      intro i stack s
      left
      apply Supports.nothing
    · rintro symbol reason i a ⟨⟩
    · rintro symbol i a ⟨⟩ stack s e ⟨⟩
  · constructor
    · intro c hc
      obtain rfl := List.mem_singleton.mp hc
      use ⟨_, rfl⟩
      intro i stack s
      right
      use ""
      apply Objects.fault rfl rfl
    · rintro symbol reason i a ⟨⟩ stack s e ⟨⟩
      rfl
    · rintro symbol i a ⟨⟩

/-- The second risk rejects the signal for the default reason. -/
theorem evaluate_decides_closedHours :
  (∀ k ∈ closedHours.risks, k.IsOrdinary)
    ∧ ∃ i calls, closedHours.inspectAt .empty buyAtMarket (.decimal (.ofInt 100)) .null = .ok i
      ∧ (closedHours.recorded.evaluate buyAtMarket (.decimal (.ofInt 100)) .null).outcome []
          ((), [])
        = (.ok (.rejection i.signal "hours" "Validation failed" none), (), calls)
  := by
  have hr := isOrdinary_of_mem_closedHours
  obtain ⟨i, hi⟩ : ∃ i, closedHours.inspectAt (Stack.current []) buyAtMarket
    (.decimal (.ofInt 100)) .null = .ok i := ⟨_, rfl⟩
  obtain ⟨d, s', calls, hplain, hrecorded, -⟩ := evaluate_decides_by_first_failure hr hi ()
  obtain rfl : d = .rejection i.signal "hours" "Validation failed" none := by
    cases hi
    cases hplain
    rfl
  use hr, i, calls, hi, hrecorded

end Registry

end TradeGate
