import TradeGate.Proofs.Risk.FirstFailure

/-!
# Reasons of any kind

Whatever a check answers, and whatever stops it short of a cancellation, is taken as a finding, and
a failure always has a reason that counts as true.  The reason may be of any kind, and the risk
is told it as it is; but the decision has room for a text alone.  So an evaluation ends with a
decision unless the reason of the first failure is neither a text nor bytes that encode one.
-/

namespace TradeGate

variable {σ : Type}

/-! ### Texts -/

namespace Value

/-- The values that are read as a text. -/
theorem readText_eq_done
    {v : Value} {t : String} :
  readText v = .done t ↔ v = .text t ∨ ∃ bs, v = .bytes bs ∧ utf8? bs = some t
  := by
  cases v with
  | text s => simp [readText]
  | bytes bs =>
    cases h : utf8? bs <;> simp [readText, Reading.refuse, h]
  | _ => simp [readText, Reading.refuse]

end Value

/-! ### Failures -/

/-- A check for which a reason is looked up fails for a reason that counts as true. -/
theorem fails_of_reasonOf
    {note : Value} {r : Except Fault Answer} {choices : List Value}
    (h : Check.findingOf note r = .ok (.fail (Finding.reasonOf choices))) :
  ∃ reason, Fails note r reason ∧ reason.truth = true
  := ⟨_, ⟨_, h, rfl, rfl⟩, Finding.truth_reasonOf choices⟩

/-- A finding supports a signal or fails. -/
theorem supports_or_fails_finding
    (note : Value) (f : Finding) :
  Supports (.ok (.finding f))
    ∨ ∃ reason, Fails note (.ok (.finding f)) reason ∧ reason.truth = true
  := by
  cases hpassed : f.passed.truth with
  | true => exact .inl (.finding hpassed)
  | false =>
    right
    cases hreason : f.reason.truth with
    | true =>
      use f.reason, ⟨f, ?_, hpassed, rfl⟩
      simp [Check.findingOf, Except.bind, Finding.ofAnswer, hreason]
    | false =>
      apply fails_of_reasonOf
      simp only [Check.findingOf, Except.bind, Finding.ofAnswer, hpassed, hreason, Bool.or_self,
        Bool.false_eq_true, if_false]
      rfl

/-- So does a plain value; one that is no answer is a failure too. -/
theorem supports_or_fails_value
    (note v : Value) :
  Supports (.ok (.value v))
    ∨ ∃ reason, Fails note (.ok (.value v)) reason ∧ reason.truth = true
  := by
  have hunsupported (h : Finding.ofAnswer note (.value v)
      = .error (.unsupportedAnswer v.kindName)) :
      ∃ reason, Fails note (.ok (.value v)) reason ∧ reason.truth = true := by
    apply fails_of_reasonOf
    simp only [Check.findingOf, Except.bind, h, Fault.isOrdinary, if_true]
    rfl
  cases v with
  | null => exact .inl .nothing
  | bool b =>
    cases b with
    | true => exact .inl .yes
    | false =>
      right
      apply fails_of_reasonOf
      rfl
  | text s =>
    by_cases hs : s = ""
    · left
      rw [hs]
      exact .emptyText
    · right
      use .text s, ⟨.fail (.text s), ?_, rfl, rfl⟩
      · simp [hs]
      · simp [Check.findingOf, Except.bind, Finding.ofAnswer, hs]
  | broken s => exact .inr ⟨.broken s, ⟨_, rfl, rfl, rfl⟩, rfl⟩
  | _ => exact .inr (hunsupported rfl)

/-- A check that does not support a signal fails, unless it is cancelled, for a reason that counts
as true. -/
theorem supports_or_fails
    {r : Except Fault Answer} (hr : ∀ e, r = .error e → e.isOrdinary = true) (note : Value) :
  Supports r ∨ ∃ reason, Fails note r reason ∧ reason.truth = true
  := by
  cases r with
  | error e =>
    right
    apply fails_of_reasonOf
    simp only [Check.findingOf, Except.bind, hr e rfl, if_true]
    rfl
  | ok a =>
    cases a with
    | finding f => apply supports_or_fails_finding note f
    | value v => apply supports_or_fails_value note v

/-- A risk whose checks and callbacks end with anything but a cancellation. -/
structure Risk.IsTame (k : Risk σ) : Prop where
  checks : ∀ c ∈ k.checks, ∀ i, (c.run i).IsOrdinary
  rejection : ∀ symbol reason i, ∀ a ∈ k.onRejection symbol reason i, a.IsOrdinary
  admission : ∀ symbol i, ∀ a ∈ k.onAdmission symbol i, a.IsOrdinary

/-- Checks that are not cancelled all support the signal, or there is a first one that fails. -/
theorem passed_or_fails
    (stack : Stack) (i : Inspection) {cs : List (Risk σ × Check σ)}
    (hcs : ∀ p ∈ cs, (p.2.run i).IsOrdinary) (s : σ) :
  (∃ s', Passed stack i cs s s')
    ∨ ∃ before k c rest r s₁ s₂, cs = before ++ (k, c) :: rest
      ∧ Passed stack i before s s₁ ∧ (c.run i).outcome stack s₁ = (r, s₂)
      ∧ ∃ reason, Fails c.note r reason ∧ reason.truth = true
  := by
  apply passed_or_first
  intro p hp s
  apply supports_or_fails (hcs p hp stack s)

/-! ### Decisions -/

theorem Inspection.rejectionFor_eq_ok
    {i : Inspection} {name : String} {reason : Value} {d : Decision} :
  i.rejectionFor name reason = .ok d ↔ ∃ t, d = .rejection i.signal name t i.timestamp
    ∧ (reason = .text t ∨ ∃ bs, reason = .bytes bs ∧ Value.utf8? bs = some t)
  := by
  simp only [← Value.readText_eq_done]
  unfold rejectionFor
  obtain ⟨t, ht⟩ | ⟨flaw, hflaw⟩ := reason.readText_done_or_refuse
  · simp [ht, eq_comm]
  · simp [hflaw, Reading.refuse]

namespace Registry

variable {r : Registry σ} {signal : Signal} {price timestamp : Value} {stack : Stack}
  {i : Inspection} {s s₁ s₂ : σ}

/-- Whatever the checks answer and whatever stops them or the callbacks, short of a cancellation:
either all checks support the signal, and it is admitted; or there is a first check that fails,
and the evaluation ends with the rejection for its reason.  It ends with a decision exactly if
that reason is a text or bytes that encode one, and is refused otherwise. -/
theorem evaluate_escapes_by_reason
    (hr : ∀ k ∈ r.risks, k.IsTame)
    (hi : r.inspectAt stack.current signal price timestamp = .ok i) (s : σ) :
  (∃ s₁ s', Passed stack i r.checks s s₁
      ∧ (r.evaluate signal price timestamp).outcome stack s
        = (.ok (.admission i.signal i.timestamp), s'))
    ∨ ∃ before k c rest x reason s₁ s₂ s', r.checks = before ++ (k, c) :: rest
      ∧ Passed stack i before s s₁ ∧ (c.run i).outcome stack s₁ = (x, s₂)
      ∧ Fails c.note x reason
      ∧ (r.evaluate signal price timestamp).outcome stack s = (i.rejectionFor k.name reason, s')
      ∧ ∀ d, i.rejectionFor k.name reason = .ok d
        ↔ ∃ t, d = .rejection i.signal k.name t i.timestamp
          ∧ (reason = .text t ∨ ∃ bs, reason = .bytes bs ∧ Value.utf8? bs = some t)
  := by
  have hchecks : ∀ p ∈ r.checks, p.1 ∈ r.risks ∧ (p.2.run i).IsOrdinary := by
    intro p hp
    obtain ⟨hk, hc⟩ := mem_checks.mp hp
    use hk
    apply (hr _ hk).checks _ hc
  obtain ⟨s₁, hpassed⟩
    | ⟨before, k, c, rest, x, s₁, s₂, hsplit, hpassed, hrun, reason, hfails, htruth⟩ :=
    passed_or_fails stack i (fun p hp => (hchecks p hp).2) s
  · left
    have hadmission : ∀ k ∈ r.risks, ∀ a ∈ k.onAdmission i.signal.symbol i, a.IsOrdinary :=
      fun k hk => (hr k hk).admission _ i
    exact ⟨s₁, _, hpassed, outcome_evaluate_of_passed hi hadmission hpassed⟩
  · right
    have hk : k ∈ r.risks := by
      have hmem : (k, c) ∈ r.checks := by simp [hsplit]
      exact (hchecks _ hmem).1
    have hrejection := (hr k hk).rejection i.signal.symbol reason i
    exact ⟨before, k, c, rest, x, reason, s₁, s₂, _, hsplit, hpassed, hrun, hfails,
      outcome_evaluate_of_fails hi hrejection hsplit hpassed hrun hfails htruth,
      fun d => Inspection.rejectionFor_eq_ok⟩

/-- A check that answers with a failure and a reason. -/
def failingFor (reason : Value) : Registry Unit where
  risks :=
    [⟨"house", [⟨.text "house rule", fun _ => pure (.finding (.fail reason))⟩], .text "",
      some fun _ _ _ => throw .exhausted, none⟩]
  positions := []

theorem isTame_of_mem_failingFor
    (reason : Value) :
  ∀ k ∈ (failingFor reason).risks, k.IsTame
  := by
  intro k hk
  obtain rfl := List.mem_singleton.mp hk
  constructor
  · intro c hc
    obtain rfl := List.mem_singleton.mp hc
    rintro i stack s e ⟨⟩
  · rintro symbol reason i a ⟨⟩ stack s e ⟨⟩
    rfl
  · rintro symbol i a ⟨⟩

/-- Bytes that encode a text are the reason of a rejection. -/
theorem evaluate_escapes_by_reason_bytes :
  (∀ k ∈ (failingFor (.bytes [110, 111])).risks, k.IsTame)
    ∧ ∃ i s', (failingFor (.bytes [110, 111])).inspectAt .empty buyAtMarket
        (.decimal (.ofInt 100)) .null = .ok i
      ∧ ((failingFor (.bytes [110, 111])).evaluate buyAtMarket (.decimal (.ofInt 100)) .null).outcome
          [] ()
        = (.ok (.rejection i.signal "house" "no" none), s')
  := by
  have hr := isTame_of_mem_failingFor (.bytes [110, 111])
  obtain ⟨i, hi⟩ : ∃ i, (failingFor (.bytes [110, 111])).inspectAt (Stack.current []) buyAtMarket
    (.decimal (.ofInt 100)) .null = .ok i := ⟨_, rfl⟩
  use hr, i
  obtain ⟨_, _, -, hadmitted⟩
    | ⟨_, k, _, _, _, reason, _, _, s', -, -, -, -, hrejected, -⟩ :=
    evaluate_escapes_by_reason hr hi ()
  · cases hi
    cases hadmitted
  · have hd : i.rejectionFor k.name reason = .ok (.rejection i.signal "house" "no" none) := by
      cases hi
      exact (congrArg Prod.fst hrejected).symm
    use s', hi
    rw [hrejected, hd]

/-- A number is not, and the evaluation is refused. -/
theorem number_as_reason_escapes :
  (∀ k ∈ (failingFor (.int 5)).risks, k.IsTame)
    ∧ (∃ i, (failingFor (.int 5)).inspectAt .empty buyAtMarket (.decimal (.ofInt 100)) .null
      = .ok i)
    ∧ ((failingFor (.int 5)).evaluate buyAtMarket (.decimal (.ofInt 100)) .null).outcome [] ()
      = (.error (.refused ⟨.decision, [⟨["reason"], .notText⟩]⟩), ())
  := by
  use isTame_of_mem_failingFor _, ⟨_, rfl⟩
  rfl

end Registry

end TradeGate
