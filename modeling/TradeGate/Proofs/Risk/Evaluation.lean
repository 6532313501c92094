import TradeGate.Proofs.Reading
import TradeGate.Proofs.Risk.Objections

/-!
# Evaluations

An evaluation asks the checks of all risks in order, each in the state that the one before
left behind.  The first that objects decides: its risk is told, and the signal is
rejected.  If none objects, then all risks are told in order, and the signal is admitted.
The ordinary faults of callbacks change nothing but the state.
-/

namespace TradeGate

variable {σ : Type}

/-! ### Ordinary risks -/

/-- An action that ends with a result or with an ordinary fault. -/
def Act.IsOrdinary {α : Type} (a : Act σ α) : Prop :=
  ∀ stack s e, (a.outcome stack s).1 = .error e → e.isOrdinary = true

/-- A check whose note is a text without broken code points and which, whenever it is run,
supports the signal or objects to it. -/
structure Check.IsOrdinary (c : Check σ) : Prop where
  note : ∃ note, c.note = .text note
  run : ∀ i stack s, Supports ((c.run i).outcome stack s).1
    ∨ ∃ own, Objects ((c.run i).outcome stack s).1 own

/-- What a risk does about a rejection. -/
def Risk.onRejection (k : Risk σ) (symbol : String) (reason : Value) (i : Inspection) :
    Option (Act σ Unit) :=
  k.onRejected.map fun f => f symbol reason i

/-- What a risk does about an admission. -/
def Risk.onAdmission (k : Risk σ) (symbol : String) (i : Inspection) : Option (Act σ Unit) :=
  k.onAllowed.map fun f => f symbol i

/-- A risk with ordinary checks and callbacks. -/
structure Risk.IsOrdinary (k : Risk σ) : Prop where
  checks : ∀ c ∈ k.checks, c.IsOrdinary
  rejection : ∀ symbol reason i, ∀ a ∈ k.onRejection symbol reason i, a.IsOrdinary
  admission : ∀ symbol i, ∀ a ∈ k.onAdmission symbol i, a.IsOrdinary

/-! ### Callbacks -/

/-- The state after a callback that may be missing. -/
def stateAfter (stack : Stack) (s : σ) : Option (Act σ Unit) → σ
  | some a => (a.outcome stack s).2
  | none => s

/-- Absorbed, an ordinary action ends well and keeps what it changed. -/
theorem Act.IsOrdinary.outcome_absorb
    {a : Act σ Unit} (ha : a.IsOrdinary) (stack : Stack) (s : σ) :
  a.absorb.outcome stack s = (.ok (), (a.outcome stack s).2)
  := by
  rw [Act.outcome_absorb]
  rcases hrun : a.outcome stack s with ⟨e | x, s'⟩
  · have he := ha stack s e (by rw [hrun])
    simp [he]
  · rfl

/-- A callback that may be missing, with its ordinary faults absorbed. -/
def callback : Option (Act σ Unit) → Act σ Unit
  | some a => a.absorb
  | none => pure ()

/-- An ordinary callback ends well and keeps what it changed. -/
theorem outcome_callback
    {a : Option (Act σ Unit)} (ha : ∀ b ∈ a, b.IsOrdinary) (stack : Stack) (s : σ) :
  (callback a).outcome stack s = (.ok (), stateAfter stack s a)
  := by
  cases a with
  | none => rfl
  | some b => apply (ha b rfl).outcome_absorb

namespace Risk

theorem notifyRejected_eq
    (k : Risk σ) (symbol : String) (reason : Value) (i : Inspection) :
  k.notifyRejected symbol reason i = callback (k.onRejection symbol reason i)
  := by
  unfold notifyRejected onRejection
  cases k.onRejected <;> rfl

theorem notifyAllowed_eq
    (k : Risk σ) (symbol : String) (i : Inspection) :
  k.notifyAllowed symbol i = callback (k.onAdmission symbol i)
  := by
  unfold notifyAllowed onAdmission
  cases k.onAllowed <;> rfl

end Risk

/-- All risks are told of an admission, one after the other. -/
theorem Registry.outcome_notifyAllowed
    {symbol : String} {i : Inspection} {ks : List (Risk σ)}
    (hks : ∀ k ∈ ks, ∀ a ∈ k.onAdmission symbol i, a.IsOrdinary) (stack : Stack) (s : σ) :
  (notifyAllowed symbol i ks).outcome stack s
    = (.ok (), ks.foldl (fun s k => stateAfter stack s (k.onAdmission symbol i)) s)
  := by
  induction ks generalizing s with
  | nil => rfl
  | cons k ks ih =>
    obtain ⟨hk, hks⟩ := List.forall_mem_cons.mp hks
    rw [notifyAllowed, Act.outcome_bind, Risk.notifyAllowed_eq, outcome_callback hk]
    apply ih hks

/-! ### The checks in order -/

/-- The checks of a registry are those of its risks. -/
theorem Registry.mem_checks
    {r : Registry σ} {p : Risk σ × Check σ} :
  p ∈ r.checks ↔ p.1 ∈ r.risks ∧ p.2 ∈ p.1.checks
  := by
  obtain ⟨k, c⟩ := p
  simp only [checks, List.mem_flatMap, List.mem_map, Prod.mk.injEq]
  constructor
  · rintro ⟨_, hk, _, hc, rfl, rfl⟩
    use hk, hc
  · rintro ⟨hk, hc⟩
    use k, hk, c, hc

/-- The checks of a list, run one after the other from a state to a state, all support the
signal. -/
inductive Passed (stack : Stack) (i : Inspection) :
    List (Risk σ × Check σ) → σ → σ → Prop where
  | nil (s : σ) : Passed stack i [] s s
  | cons {k : Risk σ} {c : Check σ} {rest : List (Risk σ × Check σ)}
      {r : Except Fault Answer} {s s' s'' : σ}
      (hrun : (c.run i).outcome stack s = (r, s')) (hr : Supports r)
      (hrest : Passed stack i rest s' s'') :
      Passed stack i ((k, c) :: rest) s s''

variable {stack : Stack} {i : Inspection}

/-- After checks that all support the signal, the next ones are asked. -/
theorem Passed.outcome_firstFailure
    {cs : List (Risk σ × Check σ)} {s s' : σ} (h : Passed stack i cs s s')
    (rest : List (Risk σ × Check σ)) :
  (Registry.firstFailure i (cs ++ rest)).outcome stack s
    = (Registry.firstFailure i rest).outcome stack s'
  := by
  induction h with
  | nil s => rfl
  | @cons k c _ r s s' s'' hrun hr _ ih =>
    obtain ⟨f, hf, hpass⟩ := hr.findingOf c.note
    simp only [List.cons_append, Registry.firstFailure, Act.outcome_bind, Check.outcome_find,
      hrun, hf, hpass, if_true]
    apply ih

/-- A check that fails is the first failure. -/
theorem Fails.outcome_firstFailure
    {k : Risk σ} {c : Check σ} {reason : Value} {r : Except Fault Answer} {s s' : σ}
    (hrun : (c.run i).outcome stack s = (r, s'))
    (hr : Fails c.note r reason) (rest : List (Risk σ × Check σ)) :
  (Registry.firstFailure i ((k, c) :: rest)).outcome stack s = (.ok (some (k, reason)), s')
  := by
  obtain ⟨f, hf, hfail, rfl⟩ := hr
  simp [Registry.firstFailure, Act.outcome_bind, Check.outcome_find, hrun, hf, hfail]

/-- Of checks each of which supports the signal or ends in some other way, all support it, or
there is a first one that ends in the other way. -/
theorem passed_or_first
    {Q : Check σ → Except Fault Answer → Prop} {cs : List (Risk σ × Check σ)}
    (hcs : ∀ p ∈ cs, ∀ s, Supports ((p.2.run i).outcome stack s).1
      ∨ Q p.2 ((p.2.run i).outcome stack s).1) (s : σ) :
  (∃ s', Passed stack i cs s s')
    ∨ ∃ before k c rest r s₁ s₂, cs = before ++ (k, c) :: rest
      ∧ Passed stack i before s s₁ ∧ (c.run i).outcome stack s₁ = (r, s₂) ∧ Q c r
  := by
  induction cs generalizing s with
  | nil =>
    left
    use s
    apply Passed.nil
  | cons p cs ih =>
    obtain ⟨k, c⟩ := p
    obtain ⟨hc, hcs⟩ := List.forall_mem_cons.mp hcs
    have hr := hc s
    rcases hrun : (c.run i).outcome stack s with ⟨r, s₁⟩
    rw [hrun] at hr
    obtain hr | hr := hr
    · obtain ⟨s', hpassed⟩ | ⟨before, k', c', rest, r', s', s₂, rfl, hpassed, hfirst⟩ :=
        ih hcs s₁
      · left
        use s'
        apply Passed.cons hrun hr hpassed
      · right
        use (k, c) :: before, k', c', rest, r', s', s₂, rfl
        use Passed.cons hrun hr hpassed
    · right
      use [], k, c, cs, r, s, s₁, rfl
      use Passed.nil s

/-- Ordinary checks all support the signal, or there is a first one that objects. -/
theorem passed_or_objects
    (stack : Stack) (i : Inspection) {cs : List (Risk σ × Check σ)}
    (hcs : ∀ p ∈ cs, p.2.IsOrdinary) (s : σ) :
  (∃ s', Passed stack i cs s s')
    ∨ ∃ before k c rest r own s₁ s₂, cs = before ++ (k, c) :: rest
      ∧ Passed stack i before s s₁ ∧ (c.run i).outcome stack s₁ = (r, s₂) ∧ Objects r own
  := by
  have hsupports : ∀ p ∈ cs, ∀ s, Supports ((p.2.run i).outcome stack s).1
      ∨ ∃ own, Objects ((p.2.run i).outcome stack s).1 own :=
    fun p hp s => (hcs p hp).run i stack s
  obtain hpassed | ⟨before, k, c, rest, r, s₁, s₂, hsplit, hpassed, hrun, own, hr⟩ :=
    passed_or_first (Q := fun _ r => ∃ own, Objects r own) hsupports s
  · left
    apply hpassed
  · right
    use before, k, c, rest, r, own, s₁, s₂, hsplit, hpassed, hrun

/-- Where one of the checks objects, not all of them support the signal. -/
theorem Objects.not_passed
    {before rest : List (Risk σ × Check σ)} {k : Risk σ} {c : Check σ} {own : String}
    {r : Except Fault Answer} {s s₁ s₂ : σ} (hbefore : Passed stack i before s s₁)
    (hrun : (c.run i).outcome stack s₁ = (r, s₂)) (hr : Objects r own) :
  ¬ ∃ s', Passed stack i (before ++ (k, c) :: rest) s s'
  := by
  rintro ⟨s', hpassed⟩
  induction hbefore with
  | nil s =>
    cases hpassed with
    | cons hrun' hr' _ =>
      obtain ⟨rfl, -⟩ : _ ∧ _ := by simpa [hrun] using hrun'
      apply hr'.not_objects hr
  | cons hrun₁ _ _ ih =>
    cases hpassed with
    | cons hrun₂ _ hrest =>
      obtain ⟨-, rfl⟩ : _ ∧ _ := by simpa [hrun₁] using hrun₂
      apply ih hrun hrest

/-! ### Decisions -/

/-- A value that is not read as a text is refused for one flaw. -/
theorem Value.readText_done_or_refuse
    (v : Value) :
  (∃ t, readText v = .done t) ∨ ∃ flaw, readText v = .refuse flaw
  := by
  cases v with
  | text s => exact .inl ⟨s, rfl⟩
  | bytes bs =>
    cases h : utf8? bs with
    | some s => exact .inl ⟨s, by simp only [readText, h]⟩
    | none => exact .inr ⟨.notUnicode, by simp only [readText, h]⟩
  | broken s => exact .inr ⟨.notUnicode, rfl⟩
  | _ => exact .inr ⟨.notText, rfl⟩

/-- What comes of a failure of a risk for a reason: a rejection, if the reason can be read as a
text, or else the refusal of a decision that has such a reason. -/
def Inspection.rejectionFor (i : Inspection) (name : String) (reason : Value) :
    Except Fault Decision :=
  match reason.readText with
  | .done t => .ok (.rejection i.signal name t i.timestamp)
  | .refused issue _ => .error (.refused ⟨.decision, [⟨["reason"], issue.flaw⟩]⟩)

/-- An inspection is read from the fields by their names. -/
theorem Inspection.read_eq_done
    {signal : Signal} {ps : List OpenPosition} {fields : Fields} :
  Inspection.read signal ps fields = .done i
    ↔ fields.required "symbol" Value.readText = .done i.symbol
      ∧ fields.required "current_price" Value.readDecimal = .done i.currentPrice
      ∧ fields.optional "timestamp" none (Value.readNullable Value.readInstant)
        = .done i.timestamp
      ∧ fields.optional "strategy_name" "" Value.readText = .done i.strategy
      ∧ fields.optional "exchange_name" "" Value.readText = .done i.exchange
      ∧ fields.optional "frame_name" "" Value.readText = .done i.frameName
      ∧ fields.optional "backtest" false Value.readTruth = .done i.backtest
      ∧ fields.optional "active_position_count" 0 Value.readInteger = .done i.openCount
      ∧ signal = i.signal ∧ ps = i.openPositions
  := by
  cases i
  simp [Inspection.read, -Bool.exists_bool, and_assoc]

namespace Registry

/-- An evaluation inspects the signal at the price that is read. -/
theorem exists_inspect_of_inspectAt
    {r : Registry σ} {frame : Frame} {signal : Signal} {price timestamp : Value}
    (hi : r.inspectAt frame signal price timestamp = .ok i) :
  ∃ p, priceOf price = .ok p
    ∧ r.inspect frame signal p (timestampFor signal timestamp) = .ok i
  := by
  unfold inspectAt at hi
  cases hp : priceOf price with
  | error e =>
    rw [hp] at hi
    cases hi
  | ok p =>
    rw [hp] at hi
    use p, rfl, hi

/-- The time of an inspection is read from that of the evaluation. -/
theorem timestamp_of_inspectAt
    {r : Registry σ} {frame : Frame} {signal : Signal} {price timestamp : Value}
    (hi : r.inspectAt frame signal price timestamp = .ok i) :
  (timestampFor signal timestamp).readNullable Value.readInstant = .done i.timestamp
  := by
  obtain ⟨p, -, hinspect⟩ := exists_inspect_of_inspectAt hi
  have hread := (Inspection.read_eq_done.mp (Reading.mapError_finish_eq_ok.mp hinspect)).2.2.1
  simpa [Fields.optional, Value.lookup] using hread

theorem decide_admitted
    (signal : Signal) {timestamp : Value} {t : Option Instant}
    (ht : timestamp.readNullable Value.readInstant = .done t) :
  decide signal [("verdict", .text Verdict.admitted.word), ("timestamp", timestamp)]
    = .ok (.admission signal t)
  := by
  simp [decide, Decision.readOther, Fields.required, Fields.optional, Value.lookup, ht]
  rfl

/-- The decision on a failure is the rejection for its reason. -/
theorem decide_rejectionFor
    {i : Inspection} (name : String) {reason : Value} (hreason : reason.truth = true)
    {timestamp : Value} (ht : timestamp.readNullable Value.readInstant = .done i.timestamp) :
  decide i.signal [("verdict", .text Verdict.rejected.word), ("risk_name", .text name),
      ("reason", reason), ("timestamp", timestamp)]
    = i.rejectionFor name reason
  := by
  have hnull : reason.readNullable Value.readText = some <$> reason.readText := by
    cases reason with
    | null => cases hreason
    | _ => rfl
  obtain ⟨t, hdone⟩ | ⟨flaw, hrefuse⟩ := reason.readText_done_or_refuse
  · simp [decide, Decision.readOther, Fields.required, Fields.optional, Value.lookup, ht, hnull,
      hdone, Inspection.rejectionFor]
    rfl
  · simp [decide, Decision.readOther, Fields.required, Fields.optional, Value.lookup, ht, hnull,
      hrefuse, Inspection.rejectionFor]
    rfl

variable {r : Registry σ} {signal : Signal} {price timestamp : Value} {s s₁ s₂ : σ}

/-- An evaluation whose checks all support the signal admits it and tells all risks. -/
theorem outcome_evaluate_of_passed
    (hi : r.inspectAt stack.current signal price timestamp = .ok i)
    (hr : ∀ k ∈ r.risks, ∀ a ∈ k.onAdmission i.signal.symbol i, a.IsOrdinary)
    (hpassed : Passed stack i r.checks s s₁) :
  (r.evaluate signal price timestamp).outcome stack s
    = (.ok (.admission i.signal i.timestamp),
        r.risks.foldl (fun s k => stateAfter stack s (k.onAdmission i.signal.symbol i)) s₁)
  := by
  have hfirst := hpassed.outcome_firstFailure []
  rw [List.append_nil] at hfirst
  simp only [evaluate, judge, Act.outcome_bind, Act.outcome_stack, Act.outcome_ofExcept, hi,
    hfirst, firstFailure, Act.outcome_pure, outcome_notifyAllowed hr,
    decide_admitted i.signal (timestamp_of_inspectAt hi)]

/-- An evaluation in which a check fails after others that support the signal ends with the
rejection for its reason. -/
theorem outcome_evaluate_of_fails
    (hi : r.inspectAt stack.current signal price timestamp = .ok i)
    {before rest : List (Risk σ × Check σ)} {k : Risk σ} {c : Check σ} {reason : Value}
    {x : Except Fault Answer}
    (hr : ∀ a ∈ k.onRejection i.signal.symbol reason i, a.IsOrdinary)
    (hsplit : r.checks = before ++ (k, c) :: rest) (hpassed : Passed stack i before s s₁)
    (hrun : (c.run i).outcome stack s₁ = (x, s₂)) (hfails : Fails c.note x reason)
    (htruth : reason.truth = true) :
  (r.evaluate signal price timestamp).outcome stack s
    = (i.rejectionFor k.name reason,
        stateAfter stack s₂ (k.onRejection i.signal.symbol reason i))
  := by
  have hfirst := hpassed.outcome_firstFailure ((k, c) :: rest)
  rw [hfails.outcome_firstFailure hrun, ← hsplit] at hfirst
  simp only [evaluate, judge, Act.outcome_bind, Act.outcome_stack, Act.outcome_ofExcept, hi,
    hfirst, Risk.notifyRejected_eq, outcome_callback hr,
    decide_rejectionFor k.name htruth (timestamp_of_inspectAt hi)]

/-- An evaluation in which a check objects after others that support the signal rejects it
in the name of the check's risk and tells that risk. -/
theorem outcome_evaluate_of_objects
    (hi : r.inspectAt stack.current signal price timestamp = .ok i)
    {before rest : List (Risk σ × Check σ)} {k : Risk σ} {c : Check σ} {note own : String}
    {x : Except Fault Answer}
    (hr : ∀ a ∈ k.onRejection i.signal.symbol (.text (reasonFor own note)) i, a.IsOrdinary)
    (hsplit : r.checks = before ++ (k, c) :: rest) (hpassed : Passed stack i before s s₁)
    (hnote : c.note = .text note) (hrun : (c.run i).outcome stack s₁ = (x, s₂))
    (hobjects : Objects x own) :
  (r.evaluate signal price timestamp).outcome stack s
    = (.ok (.rejection i.signal k.name (reasonFor own note) i.timestamp),
        stateAfter stack s₂
          (k.onRejection i.signal.symbol (.text (reasonFor own note)) i))
  := by
  have hfails : Fails c.note x (.text (reasonFor own note)) := by
    rw [hnote]
    apply hobjects.fails note
  have htruth : (Value.text (reasonFor own note)).truth = true := by
    simp [reasonFor_ne_empty]
  apply outcome_evaluate_of_fails hi hr hsplit hpassed hrun hfails htruth

end Registry

end TradeGate
