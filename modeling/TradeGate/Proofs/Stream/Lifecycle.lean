import TradeGate.Proofs.Stream.Tracking

/-!
# The life of a stream

Whatever calls are made on a stream, in whatever order and contexts, it is entered once at
most, and before it is left.  From then until it is left for the first time it is active;
it delivers what its source gives, one pull at a time, until that ends; and it closes a
source that has not ended when it is left.
-/

namespace TradeGate

variable {σ α : Type}

namespace StreamHistory

variable {h : StreamHistory σ α} {n : Nat}

/-! ### Touches of the source -/

theorem touches_succ
    {x : StreamCall} (hx : h.calls[n]? = some x) :
  h.touches (n + 1) = (h.answer n x).2.2.2.2
  := by
  rw [touches, after_succ hx]

theorem delivered_succ
    {x : StreamCall} (hx : h.calls[n]? = some x) :
  h.delivered (n + 1) = h.delivered n ++ (h.answer n x).1.item?.toList
  := by
  rw [delivered, List.range_succ, List.filterMap_append, ← delivered]
  congr 1
  cases hitem : (h.answer n x).1.item? <;> simp [hx, hitem]

/-- A call touches the source once at most.  What is pulled is delivered, and the source is
closed by the first call to leave alone. -/
theorem touches_of_call
    {x : StreamCall} (hx : h.calls[n]? = some x) :
  ∃ ts, h.touches (n + 1) = h.touches n ++ ts
    ∧ ts.filterMap Touch.item? = (h.answer n x).1.item?.toList
    ∧ (ts.countP Touch.isClosing = 0
      ∨ ts.countP Touch.isClosing = 1 ∧ h.Exits n ∧ ¬ h.ExitedBefore n)
  := by
  have ht := h.tracks n
  rw [touches_succ hx]
  cases x with
  | enter c =>
    by_cases hused : h.EnteredBefore n ∨ h.ExitedBefore n
    · use []
      rw [ht.answer_enter_again c hused]
      simp [touches, StreamReply.item?]
    · obtain ⟨hentered, hexited⟩ := not_or.mp hused
      obtain ⟨w, ha⟩ := ht.answer_enter c hentered hexited
      use [.begun (.ok ())]
      rw [ha]
      simp [StreamReply.item?, Touch.item?, Touch.isClosing]
  | next c =>
    by_cases hspent : h.ExitedBefore n ∨ h.ExhaustedBefore n
    · use []
      rw [ht.answer_next_late c hspent]
      simp [touches, StreamReply.item?]
    · obtain ⟨hexited, hexhausted⟩ := not_or.mp hspent
      by_cases hentered : h.EnteredBefore n
      · obtain ⟨r, w, ha⟩ := ht.answer_next c hentered hexited hexhausted
        use [.pulled r]
        rw [ha]
        use rfl
        constructor
        · rcases r with e | a | _ | _ <;> rfl
        · left
          rfl
      · use []
        rw [ht.answer_next_early c hentered hexited]
        simp [touches, StreamReply.item?]
  | exit c =>
    have hexits : h.Exits n := ⟨c, hx⟩
    by_cases hout : h.EnteredBefore n ∧ ¬ h.ExitedBefore n
    · obtain ⟨⟨m, hm, hm'⟩, hexited⟩ := hout
      obtain ⟨c₀, hc₀⟩ := hm'.exists_call
      obtain ⟨r, w, touches, ha, hclosed, hkept⟩ := ht.answer_exit c hm hc₀ hm' hexited
      rw [ha]
      by_cases hcloses : h.source.close.isSome = true ∧ ¬ h.ExhaustedBefore n
      · use [.closed r], hclosed hcloses
        simp [StreamReply.item?, Touch.item?, Touch.isClosing, hexits, hexited]
      · use []
        simp [StreamReply.item?, (hkept hcloses).2]
    · use []
      rw [ht.answer_exit_again c (by tauto)]
      simp [touches, StreamReply.item?]

/-! ### The laws -/

/-- The laws that the calls on a stream obey. -/
structure Lifecycle (h : StreamHistory σ α) : Prop where
  /-- The first call but for `next`, if it is one to enter, pushes the frame and lets the
  source begin. -/
  enter : ∀ n c, h.calls[n]? = some (.enter c) → ¬ h.EnteredBefore n → ¬ h.ExitedBefore n →
    h.Answered n (.enter c) (.entered (.ok ())) { c with stack := h.frame :: c.stack }
      ∧ h.touches (n + 1) = h.touches n ++ [.begun (.ok ())]
  /-- Every other call to enter is refused and changes nothing. -/
  enter_again : ∀ n c, h.calls[n]? = some (.enter c) → h.EnteredBefore n ∨ h.ExitedBefore n →
    h.Answered n (.enter c) (.entered (.error .enteredTwice)) c ∧ h.after (n + 1) = h.after n
  /-- The stream is entered once at most. -/
  entered_once : ∀ m n, h.Enters m → h.Enters n → m = n
  /-- Before it is entered and before it is left, the stream refuses to be drained. -/
  next_early : ∀ n c, h.calls[n]? = some (.next c) →
    ¬ h.EnteredBefore n → ¬ h.ExitedBefore n →
    h.Answered n (.next c) (.delivered (.error .notEntered)) c ∧ h.after (n + 1) = h.after n
  /-- After it was entered, the stream pulls its source once for each call, and gives what
  the source gives. -/
  next : ∀ n c, h.calls[n]? = some (.next c) →
    h.EnteredBefore n → ¬ h.ExitedBefore n → ¬ h.ExhaustedBefore n →
    ∃ r, h.Answered n (.next c) (.delivered r) c ∧ h.touches (n + 1) = h.touches n ++ [.pulled r]
  /-- Once its source was found exhausted or failed, or it was left, the stream is exhausted
  for good and does not touch the source. -/
  next_late : ∀ n c, h.calls[n]? = some (.next c) → h.ExitedBefore n ∨ h.ExhaustedBefore n →
    h.Answered n (.next c) (.delivered (.ok .done)) c ∧ h.after (n + 1) = h.after n
  /-- The items delivered are those that the source gave, in order. -/
  delivered : ∀ n, h.delivered n = (h.touches n).filterMap Touch.item?
  /-- The stream is active from the entry to the first exit after it. -/
  active : ∀ n, (h.stream n).active = true ↔ h.EnteredBefore n ∧ ¬ h.ExitedBefore n
  /-- That exit, in whatever context it is made, brings back the stack from the entry.  It
  closes a source that can be closed and was not found exhausted, and fails only if closing
  does. -/
  exit : ∀ m n c₀ c, m < n → h.calls[m]? = some (.enter c₀) → h.Enters m →
    h.calls[n]? = some (.exit c) → ¬ h.ExitedBefore n →
    ∃ r, h.Answered n (.exit c) (.left r) { c with stack := c₀.stack }
      ∧ (h.source.close.isSome = true ∧ ¬ h.ExhaustedBefore n →
        h.touches (n + 1) = h.touches n ++ [.closed r])
      ∧ (¬ (h.source.close.isSome = true ∧ ¬ h.ExhaustedBefore n) →
        r = .ok () ∧ h.touches (n + 1) = h.touches n)
  /-- Every other exit changes no frame and does not touch the source. -/
  exit_again : ∀ n c, h.calls[n]? = some (.exit c) → ¬ h.EnteredBefore n ∨ h.ExitedBefore n →
    h.Answered n (.exit c) (.left (.ok ())) c ∧ h.touches (n + 1) = h.touches n
  /-- The source is closed once at most. -/
  closed_once : ∀ n, (h.touches n).countP Touch.isClosing ≤ 1

/-- Only the first of several calls to enter succeeds. -/
theorem not_enters_of_lt
    {m : Nat} (hm : h.Enters m) (hmn : m < n) :
  ¬ h.Enters n
  := by
  rintro ⟨c, hc, hr⟩
  rw [(h.tracks n).answer_enter_again c (.inl ⟨m, hmn, hm⟩)] at hr
  cases hr

/-- All items that were pulled were delivered. -/
theorem delivered_eq
    (n : Nat) :
  h.delivered n = (h.touches n).filterMap Touch.item?
  := by
  induction n with
  | zero => rfl
  | succ n ih =>
    cases hx : h.calls[n]? with
    | none =>
      rw [touches, after_succ_of_none hx, ← touches, ← ih, delivered, List.range_succ,
        List.filterMap_append, ← delivered]
      simp [hx]
    | some x =>
      obtain ⟨ts, htouches, hitems, -⟩ := touches_of_call hx
      rw [htouches, List.filterMap_append, hitems, ← ih, delivered_succ hx]

/-- A source that was closed was closed once, and by a call to leave. -/
theorem countP_isClosing
    (n : Nat) :
  (h.touches n).countP Touch.isClosing = 0
    ∨ (h.touches n).countP Touch.isClosing = 1 ∧ h.ExitedBefore n
  := by
  induction n with
  | zero =>
    left
    rfl
  | succ n ih =>
    cases hx : h.calls[n]? with
    | none =>
      have hexits : ¬ h.Exits n := by simp [Exits, hx]
      rw [touches, after_succ_of_none hx, ← touches, exitedBefore_succ, or_iff_left hexits]
      apply ih
    | some x =>
      obtain ⟨ts, htouches, -, hclosed⟩ := touches_of_call hx
      rw [htouches, List.countP_append, exitedBefore_succ]
      obtain hn | ⟨hn, hexited⟩ := ih <;> obtain hts | ⟨hts, hexits, hnot⟩ := hclosed
      · left
        omega
      · right
        use by omega, .inr hexits
      · right
        use by omega, .inl hexited
      · exact absurd hexited hnot

variable (h)

/-- All calls on a stream, in any order and contexts, obey the laws of its life. -/
theorem calls_obey_lifecycle :
  h.Lifecycle
  := by
  constructor
  case enter =>
    intro n c hx hentered hexited
    obtain ⟨w, ha⟩ := (h.tracks n).answer_enter c hentered hexited
    rw [touches_succ hx, ha]
    use ⟨hx, by rw [ha], by rw [ha]⟩
  case enter_again =>
    intro n c hx hused
    have ha := (h.tracks n).answer_enter_again c hused
    rw [after_succ hx, ha]
    use ⟨hx, by rw [ha], by rw [ha]⟩
    rfl
  case entered_once =>
    intro m n hm hn
    obtain hlt | rfl | hlt := Nat.lt_trichotomy m n
    · exact absurd hn (not_enters_of_lt hm hlt)
    · rfl
    · exact absurd hm (not_enters_of_lt hn hlt)
  case next_early =>
    intro n c hx hentered hexited
    have ha := (h.tracks n).answer_next_early c hentered hexited
    rw [after_succ hx, ha]
    use ⟨hx, by rw [ha], by rw [ha]⟩
    rfl
  case next =>
    intro n c hx hentered hexited hexhausted
    obtain ⟨r, w, ha⟩ := (h.tracks n).answer_next c hentered hexited hexhausted
    rw [touches_succ hx, ha]
    use r, ⟨hx, by rw [ha], by rw [ha]⟩
  case next_late =>
    intro n c hx hspent
    have ha := (h.tracks n).answer_next_late c hspent
    rw [after_succ hx, ha]
    use ⟨hx, by rw [ha], by rw [ha]⟩
    rfl
  case delivered =>
    apply delivered_eq
  case active =>
    intro n
    apply (h.tracks n).active
  case exit =>
    intro m n c₀ c hm hc₀ henters hx hexited
    obtain ⟨r, w, touches, ha, hclosed⟩ := (h.tracks n).answer_exit c hm hc₀ henters hexited
    rw [touches_succ hx, ha]
    use r, ⟨hx, by rw [ha], by rw [ha]⟩
  case exit_again =>
    intro n c hx hout
    have ha := (h.tracks n).answer_exit_again c hout
    rw [touches_succ hx, ha]
    use ⟨hx, by rw [ha], by rw [ha]⟩
    rfl
  case closed_once =>
    intro n
    obtain hn | ⟨hn, -⟩ := h.countP_isClosing n <;> omega

/-- A stream over three numbers.  It is drained too early, entered, drained once and left in another
context, where it is then drained and left again. -/
def threeNumbers : StreamHistory (List Nat) Nat where
  frame := .empty
  source := .items
  wellFormed := Source.wellFormed_items
  world := [1, 2, 3]
  calls := [.next ⟨0, []⟩, .enter ⟨0, []⟩, .next ⟨0, [.empty]⟩, .exit ⟨1, [.empty]⟩,
    .next ⟨1, []⟩, .exit ⟨1, []⟩]

/-- It gives the first of the numbers, closes its source once, and leaves the stack from the entry
behind. -/
theorem calls_obey_lifecycle_threeNumbers :
  threeNumbers.delivered 6 = [1] ∧ (threeNumbers.touches 6).countP Touch.isClosing = 1
    ∧ (∃ r, threeNumbers.Answered 3 (.exit ⟨1, [.empty]⟩) (.left r) ⟨1, []⟩)
    ∧ threeNumbers.Answered 4 (.next ⟨1, []⟩) (.delivered (.ok .done)) ⟨1, []⟩
  := by
  have hlaws := calls_obey_lifecycle threeNumbers
  have henters : threeNumbers.Enters 1 := ⟨⟨0, []⟩, rfl, rfl⟩
  have hexited : ¬ threeNumbers.ExitedBefore 3 := by
    rintro ⟨m, hm, c, hc⟩
    obtain rfl | rfl | rfl : m = 0 ∨ m = 1 ∨ m = 2 := by omega
    all_goals cases hc
  have hlate : threeNumbers.ExitedBefore 4 := ⟨3, by decide, _, rfl⟩
  use (hlaws.delivered 6).trans rfl, rfl
  constructor
  · obtain ⟨r, hanswered, -⟩ := hlaws.exit 1 3 ⟨0, []⟩ _ (by decide) rfl henters rfl hexited
    exact ⟨r, hanswered⟩
  · exact (hlaws.next_late 4 _ rfl (.inl hlate)).1

end StreamHistory

end TradeGate
