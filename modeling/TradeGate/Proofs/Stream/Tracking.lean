import TradeGate.Proofs.Stream.History

/-!
# The state of a stream

Three facts about the calls before a place tell the state of a stream there: whether it was
entered, whether it was left, and whether its source was found exhausted.  They also tell
how it answers the next call, which is said once for each kind of call.
-/

namespace TradeGate

variable {σ α : Type}

namespace StreamHistory

variable {h : StreamHistory σ α} {n : Nat}

/-! ### Places -/

theorem after_succ
    {x : StreamCall} (hx : h.calls[n]? = some x) :
  h.after (n + 1) = ((h.answer n x).2.1, (h.answer n x).2.2.2)
  := by
  simp only [after, hx]
  rfl

theorem after_succ_of_none
    (hx : h.calls[n]? = none) :
  h.after (n + 1) = h.after n
  := by
  simp only [after, hx]

/-- What happened before the next place happened before this one or here. -/
theorem exists_lt_succ
    {P : Nat → Prop} :
  (∃ m < n + 1, P m) ↔ (∃ m < n, P m) ∨ P n
  := by
  constructor
  · rintro ⟨m, hm, hP⟩
    obtain hlt | rfl := Nat.lt_succ_iff_lt_or_eq.mp hm
    · left
      use m
    · right
      exact hP
  · rintro (⟨m, hm, hP⟩ | hP)
    · use m, Nat.lt_succ_of_lt hm
    · use n, Nat.lt_succ_self n

theorem enteredBefore_succ :
  h.EnteredBefore (n + 1) ↔ h.EnteredBefore n ∨ h.Enters n
  := exists_lt_succ

theorem exitedBefore_succ :
  h.ExitedBefore (n + 1) ↔ h.ExitedBefore n ∨ h.Exits n
  := exists_lt_succ

theorem exhaustedBefore_succ :
  h.ExhaustedBefore (n + 1) ↔ h.ExhaustedBefore n ∨ h.Exhausts n
  := exists_lt_succ

theorem Enters.exists_call
    (hn : h.Enters n) :
  ∃ c, h.calls[n]? = some (.enter c)
  := by
  obtain ⟨c, hc, -⟩ := hn
  use c

/-- Only a stream that was entered is found exhausted. -/
theorem ExhaustedBefore.enteredBefore
    (hx : h.ExhaustedBefore n) :
  h.EnteredBefore n
  := by
  obtain ⟨m, hm, ⟨k, hk, henters⟩, -⟩ := hx
  use k, Nat.lt_trans hk hm

/-! ### The stream at a place -/

/-- What the history before a place makes of the stream there. -/
structure Tracks (h : StreamHistory σ α) (n : Nat) : Prop where
  frame : (h.stream n).frame = h.frame
  active : (h.stream n).active = true ↔ h.EnteredBefore n ∧ ¬ h.ExitedBefore n
  finished : (h.stream n).finished = true ↔ h.ExitedBefore n ∨ h.ExhaustedBefore n
  opened : (h.stream n).opened = true ↔ h.EnteredBefore n
  scope : ∀ m < n, ∀ c, h.calls[m]? = some (.enter c) → h.Enters m → ¬ h.ExitedBefore n →
    (h.stream n).scope = some ⟨c.id, c.stack⟩

namespace Tracks

variable (ht : h.Tracks n) (c : Context)
include ht

/-- The first call but for `next`, if it is one to enter, enters the stream. -/
theorem answer_enter
    (henter : ¬ h.EnteredBefore n) (hexit : ¬ h.ExitedBefore n) :
  ∃ w, h.answer n (.enter c)
    = (.entered (.ok ()), ⟨h.frame, some ⟨c.id, c.stack⟩, true, false⟩,
        { c with stack := h.frame :: c.stack }, w, h.touches n ++ [.begun (.ok ())])
  := by
  have hfinished : (h.stream n).finished = false := by
    rw [Bool.eq_false_iff, Ne, ht.finished]
    rintro (hexited | hexhausted)
    · exact hexit hexited
    · exact henter hexhausted.enteredBefore
  have hactive : (h.stream n).active = false := by
    rw [Bool.eq_false_iff, Ne, ht.active]
    rintro ⟨hentered, -⟩
    exact henter hentered
  obtain ⟨w, hbegin⟩ := (h.wellFormed (h.frame :: c.stack) (h.after n).2.1).traced (h.touches n)
  use w
  have hbegin' : h.source.traced.begin.outcome (h.frame :: c.stack) (h.after n).2
    = (.ok (), w, h.touches n ++ [.begun (.ok ())]) := hbegin
  simp only [answer, Stream.answer, Stream.enter_of_unused _ ⟨hactive, hfinished⟩, ht.frame,
    hbegin', hfinished]
  simp [Except.isOk, Except.toBool]

/-- Every other call to enter is refused. -/
theorem answer_enter_again
    (hused : h.EnteredBefore n ∨ h.ExitedBefore n) :
  h.answer n (.enter c) = (.entered (.error .enteredTwice), h.stream n, c, (h.after n).2)
  := by
  have hused' : (h.stream n).active = true ∨ (h.stream n).finished = true := by
    rw [ht.active, ht.finished]
    tauto
  simp only [answer, Stream.answer, Stream.enter_of_used _ hused']

/-- A stream that was not entered refuses to be drained. -/
theorem answer_next_early
    (henter : ¬ h.EnteredBefore n) (hexit : ¬ h.ExitedBefore n) :
  h.answer n (.next c) = (.delivered (.error .notEntered), h.stream n, c, (h.after n).2)
  := by
  have hactive : (h.stream n).active = false := by
    rw [Bool.eq_false_iff, Ne, ht.active]
    tauto
  have hfinished : (h.stream n).finished = false := by
    rw [Bool.eq_false_iff, Ne, ht.finished]
    rintro (hexited | hexhausted)
    · exact hexit hexited
    · exact henter hexhausted.enteredBefore
  simp only [answer, Stream.answer, Stream.next_of_unused _ _ _ ⟨hactive, hfinished⟩]

/-- A stream that was left, or found exhausted, is exhausted for good. -/
theorem answer_next_late
    (hspent : h.ExitedBefore n ∨ h.ExhaustedBefore n) :
  h.answer n (.next c) = (.delivered (.ok .done), h.stream n, c, (h.after n).2)
  := by
  simp only [answer, Stream.answer, Stream.next_of_finished _ (ht.finished.mpr hspent)]

/-- A stream that was entered, and neither left nor found exhausted, pulls its source. -/
theorem answer_next
    (henter : h.EnteredBefore n) (hexit : ¬ h.ExitedBefore n)
    (hexhaust : ¬ h.ExhaustedBefore n) :
  ∃ r w, h.answer n (.next c)
    = (.delivered r, { h.stream n with finished := Pull.ends r }, c, w,
        h.touches n ++ [.pulled r])
  := by
  have hactive := ht.active.mpr ⟨henter, hexit⟩
  have hfinished : (h.stream n).finished = false := by
    rw [Bool.eq_false_iff, Ne, ht.finished]
    tauto
  have hopened := ht.opened.mpr henter
  simp only [answer, Stream.answer, Stream.next_of_open _ _ _ hactive hopened hfinished]
  exact ⟨_, _, rfl⟩

/-- The first call to leave after the stream was entered brings back the stack from then, and
closes a source that can be closed and was not found exhausted. -/
theorem answer_exit
    {m : Nat} (hm : m < n) {c₀ : Context} (hc₀ : h.calls[m]? = some (.enter c₀))
    (henters : h.Enters m) (hexit : ¬ h.ExitedBefore n) :
  ∃ r w touches, h.answer n (.exit c)
      = (.left r, { h.stream n with scope := none, finished := true },
          { c with stack := c₀.stack }, w, touches)
    ∧ (h.source.close.isSome = true ∧ ¬ h.ExhaustedBefore n →
      touches = h.touches n ++ [.closed r])
    ∧ (¬ (h.source.close.isSome = true ∧ ¬ h.ExhaustedBefore n) →
      r = .ok () ∧ touches = h.touches n)
  := by
  have hscope := ht.scope m hm c₀ hc₀ henters hexit
  simp only [answer, Stream.answer, Stream.exit_of_active _ _ _ hscope]
  refine ⟨_, _, _, rfl, ?_⟩
  have hopened := ht.opened.mpr ⟨m, hm, henters⟩
  by_cases hexhaust : h.ExhaustedBefore n
  · have hcloses : (h.stream n).closesSource = false := by
      simp [Stream.closesSource, ht.finished.mpr (.inr hexhaust)]
    simp only [Stream.closing_of_not_closesSource _ _ hcloses]
    simp [hexhaust, touches]
  · have hfinished : (h.stream n).finished = false := by
      rw [Bool.eq_false_iff, Ne, ht.finished]
      tauto
    have hcloses : (h.stream n).closesSource = true := by
      simp [Stream.closesSource, hopened, hfinished]
    cases hclose : h.source.close with
    | none => simp [Stream.closing, Source.traced, hclose, touches]
    | some close =>
      simp [Stream.closing, Source.traced, hclose, hcloses, hexhaust, touches, Act.traced]

/-- Every other call to leave changes nothing but that the stream is exhausted. -/
theorem answer_exit_again
    (hout : ¬ h.EnteredBefore n ∨ h.ExitedBefore n) :
  h.answer n (.exit c)
    = (.left (.ok ()), { h.stream n with scope := none, finished := true }, c, (h.after n).2)
  := by
  have hscope : (h.stream n).scope = none := by
    have hactive : (h.stream n).active = false := by
      rw [Bool.eq_false_iff, Ne, ht.active]
      tauto
    simpa [Stream.active] using hactive
  have hcloses : (h.stream n).closesSource = false := by
    rw [Bool.eq_false_iff, Stream.closesSource, Ne, Bool.and_eq_true, Bool.not_eq_true',
      Bool.eq_false_iff, Ne, ht.opened, ht.finished]
    tauto
  simp only [answer, Stream.answer, Stream.exit_of_inactive _ _ _ hscope,
    Stream.closing_of_not_closesSource _ _ hcloses]

end Tracks

/-! ### From place to place -/

/-- A call enters the stream exactly if that is the reply. -/
theorem enters_iff
    {x : StreamCall} (hx : h.calls[n]? = some x) :
  h.Enters n ↔ (h.answer n x).1 = .entered (.ok ())
  := by
  unfold Enters
  rw [hx]
  constructor
  · rintro ⟨c, hc, hr⟩
    obtain rfl : x = .enter c := by simpa using hc
    exact hr
  · intro hr
    cases x with
    | enter c => use c, rfl
    | next c => cases hr
    | exit c => cases hr

theorem exits_iff
    {x : StreamCall} (hx : h.calls[n]? = some x) :
  h.Exits n ↔ ∃ c, x = .exit c
  := by
  simp [Exits, hx]

/-- A call to drain a stream that was entered finds it exhausted exactly if that is the
reply. -/
theorem exhausts_iff
    {x : StreamCall} (hx : h.calls[n]? = some x) :
  h.Exhausts n ↔ h.EnteredBefore n ∧ ∃ r, (h.answer n x).1 = .delivered r ∧ Pull.ends r = true
  := by
  unfold Exhausts EnteredBefore
  rw [hx]
  constructor
  · rintro ⟨hentered, c, r, hc, hr⟩
    obtain rfl : x = .next c := by simpa using hc
    use hentered, r
  · rintro ⟨hentered, r, hr, hends⟩
    use hentered
    cases x with
    | enter c => cases hr
    | next c => use c, r, rfl
    | exit c => cases hr

theorem stream_succ
    {x : StreamCall} (hx : h.calls[n]? = some x) :
  h.stream (n + 1) = (h.answer n x).2.1
  := by
  rw [stream, after_succ hx]

namespace Tracks

theorem zero :
  h.Tracks 0
  := by
  have hnone : ∀ P : Nat → Prop, ¬ ∃ m < 0, P m := by
    rintro P ⟨m, hm, -⟩
    cases hm
  have hentered : ¬ h.EnteredBefore 0 := hnone _
  have hexited : ¬ h.ExitedBefore 0 := hnone _
  have hexhausted : ¬ h.ExhaustedBefore 0 := hnone _
  constructor
  · rfl
  · simp [stream, after, hentered]
  · simp [stream, after, Stream.create, hexited, hexhausted]
  · simp [stream, after, Stream.create, hentered]
  · rintro m ⟨⟩

variable (ht : h.Tracks n)
include ht

/-- A call that leaves the stream as it is, and neither enters nor leaves it. -/
theorem keep
    (hs : h.stream (n + 1) = h.stream n) (henters : ¬ h.Enters n) (hexits : ¬ h.Exits n)
    (hexhausts : h.Exhausts n → h.ExitedBefore n ∨ h.ExhaustedBefore n) :
  h.Tracks (n + 1)
  := by
  constructor
  · rw [hs, ht.frame]
  · rw [hs, ht.active, enteredBefore_succ, exitedBefore_succ]
    tauto
  · rw [hs, ht.finished, exitedBefore_succ, exhaustedBefore_succ]
    tauto
  · rw [hs, ht.opened, enteredBefore_succ]
    tauto
  · intro m hm c hc hm' hexited
    rw [exitedBefore_succ] at hexited
    obtain hlt | rfl := Nat.lt_succ_iff_lt_or_eq.mp hm
    · rw [hs]
      apply ht.scope m hlt c hc hm'
      tauto
    · exact absurd hm' henters

/-- A call that leaves the stream. -/
theorem leave
    (hs : h.stream (n + 1) = { h.stream n with scope := none, finished := true })
    (henters : ¬ h.Enters n) (hexits : h.Exits n) :
  h.Tracks (n + 1)
  := by
  have hexited : h.ExitedBefore (n + 1) := exitedBefore_succ.mpr (.inr hexits)
  constructor
  · rw [hs, ← ht.frame]
  · simp [hs, Stream.active, hexited]
  · simp [hs, hexited]
  · rw [hs, enteredBefore_succ, or_iff_left henters]
    apply ht.opened
  · intro m _ c _ _ hnot
    exact absurd hexited hnot

/-- A call to enter. -/
theorem succ_of_enter
    {c : Context} (hx : h.calls[n]? = some (.enter c)) :
  h.Tracks (n + 1)
  := by
  have hs := stream_succ hx
  have henters := enters_iff hx
  have hexhausts := exhausts_iff hx
  have hexits : ¬ h.Exits n := by simp [exits_iff hx]
  by_cases hused : h.EnteredBefore n ∨ h.ExitedBefore n
  · rw [ht.answer_enter_again c hused] at hs henters hexhausts
    apply ht.keep hs
    · simp [henters]
    · exact hexits
    · simp [hexhausts]
  · obtain ⟨hentered, hexited⟩ := not_or.mp hused
    obtain ⟨w, ha⟩ := ht.answer_enter c hentered hexited
    rw [ha] at hs henters hexhausts
    have hexhausted : ¬ h.ExhaustedBefore (n + 1) := by
      rw [exhaustedBefore_succ, hexhausts]
      rintro (hexhausted | ⟨hentered', -⟩)
      · exact hentered hexhausted.enteredBefore
      · exact hentered hentered'
    have hexited' : ¬ h.ExitedBefore (n + 1) := by
      rw [exitedBefore_succ]
      tauto
    have hentered' : h.EnteredBefore (n + 1) :=
      enteredBefore_succ.mpr (.inr (henters.mpr rfl))
    constructor
    · rw [hs]
    · simp [hs, Stream.active, hentered', hexited']
    · simp [hs, hexhausted, hexited']
    · simp [hs, hentered']
    · intro m hm c' hc' hm' _
      obtain hlt | rfl := Nat.lt_succ_iff_lt_or_eq.mp hm
      · exact absurd ⟨m, hlt, hm'⟩ hentered
      · obtain rfl : c = c' := by simpa [hx] using hc'
        rw [hs]

/-- A call for the next item. -/
theorem succ_of_next
    {c : Context} (hx : h.calls[n]? = some (.next c)) :
  h.Tracks (n + 1)
  := by
  have hs := stream_succ hx
  have henters := enters_iff hx
  have hexhausts := exhausts_iff hx
  have hexits : ¬ h.Exits n := by simp [exits_iff hx]
  by_cases hspent : h.ExitedBefore n ∨ h.ExhaustedBefore n
  · rw [ht.answer_next_late c hspent] at hs henters
    apply ht.keep hs
    · simp [henters]
    · exact hexits
    · intro _
      exact hspent
  obtain ⟨hexited, hexhausted⟩ := not_or.mp hspent
  by_cases hentered : h.EnteredBefore n
  · obtain ⟨r, w, ha⟩ := ht.answer_next c hentered hexited hexhausted
    rw [ha] at hs henters hexhausts
    have henters' : ¬ h.Enters n := by simp [henters]
    constructor
    · rw [hs, ← ht.frame]
    · rw [hs, enteredBefore_succ, exitedBefore_succ, or_iff_left henters',
        or_iff_left hexits]
      apply ht.active
    · simp [hs, exitedBefore_succ, exhaustedBefore_succ, hexited, hexits, hexhausted,
        hexhausts, hentered]
    · rw [hs, enteredBefore_succ, or_iff_left henters']
      apply ht.opened
    · intro m hm c' hc' hm' _
      obtain hlt | rfl := Nat.lt_succ_iff_lt_or_eq.mp hm
      · rw [hs]
        apply ht.scope m hlt c' hc' hm' hexited
      · exact absurd hm' henters'
  · rw [ht.answer_next_early c hentered hexited] at hs henters hexhausts
    apply ht.keep hs
    · simp [henters]
    · exact hexits
    · simp [hexhausts, hentered]

/-- A call to leave. -/
theorem succ_of_exit
    {c : Context} (hx : h.calls[n]? = some (.exit c)) :
  h.Tracks (n + 1)
  := by
  have hs := stream_succ hx
  have hexits : h.Exits n := by simp [exits_iff hx]
  have henters : ¬ h.Enters n := by
    rw [enters_iff hx]
    rintro ⟨⟩
  by_cases hout : h.EnteredBefore n ∧ ¬ h.ExitedBefore n
  · obtain ⟨⟨m, hm, hm'⟩, hexited⟩ := hout
    obtain ⟨c₀, hc₀⟩ := hm'.exists_call
    obtain ⟨r, w, touches, ha, -⟩ := ht.answer_exit c hm hc₀ hm' hexited
    rw [ha] at hs
    apply ht.leave hs henters hexits
  · rw [ht.answer_exit_again c (by tauto)] at hs
    apply ht.leave hs henters hexits

/-- What holds of the stream at a place also holds at the next one. -/
theorem succ :
  h.Tracks (n + 1)
  := by
  cases hx : h.calls[n]? with
  | none =>
    have hs : h.stream (n + 1) = h.stream n := by rw [stream, after_succ_of_none hx, stream]
    apply ht.keep hs <;> simp [Enters, Exits, Exhausts, hx]
  | some x =>
    cases x with
    | enter c => exact ht.succ_of_enter hx
    | next c => exact ht.succ_of_next hx
    | exit c => exact ht.succ_of_exit hx

end Tracks

variable (h) in
/-- The history before a place decides the state of the stream there. -/
theorem tracks
    (n : Nat) :
  h.Tracks n
  := by
  induction n with
  | zero => apply Tracks.zero
  | succ n ih => apply ih.succ

end StreamHistory

end TradeGate
