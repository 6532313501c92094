import TradeGate.Stream
import Mathlib.Tactic.Common

/-!
# Entering a stream

A stream that is entered pushes its frame before it begins to iterate its source, and a
source that does not begin does not take the frame back.  So an entry fails cleanly only
where nothing was pushed: a second entry, or one after an exit, changes nothing at all.
-/

namespace TradeGate

variable {σ α : Type}

namespace Stream

/-- A stream that was entered, or is exhausted, refuses to be entered and stays as it is. -/
theorem enter_of_used
    (source : Source σ α) {s : Stream} (hs : s.active = true ∨ s.finished = true) (c : Context)
    (w : σ) :
  s.enter source c w = (.error .enteredTwice, s, c, w)
  := by
  have hused : (s.active || s.finished) = true := Bool.or_eq_true _ _ ▸ hs
  simp [enter, hused]

/-- A stream that is entered for the first time pushes its frame, whatever becomes of its
source. -/
theorem enter_of_unused
    (source : Source σ α) {s : Stream} (hs : s.active = false ∧ s.finished = false)
    (c : Context) (w : σ) :
  s.enter source c w
    = let (r, w) := source.begin.outcome (s.frame :: c.stack) w
      (r, { s with scope := some ⟨c.id, c.stack⟩, opened := s.opened || r.isOk },
        { c with stack := s.frame :: c.stack }, w)
  := by
  simp only [enter, Context.enter, hs.1, hs.2, Bool.or_self, Bool.false_eq_true, if_false]
  rcases source.begin.outcome (s.frame :: c.stack) w with ⟨e | ⟨⟩, w'⟩
  · simp [Except.isOk, Except.toBool]
  · simp [Except.isOk, Except.toBool]

end Stream

namespace Source

/-- The source can be iterated at this point: beginning to do so does not fail. -/
def BeginsAt (source : Source σ α) (stack : Stack) (w : σ) : Prop :=
  ∃ w', source.begin.outcome stack w = (.ok (), w')

/-- A source that can always be iterated. -/
def WellFormed (source : Source σ α) : Prop :=
  ∀ stack w, source.BeginsAt stack w

/-- The source that gives the items of a list.  Its state is what it has not given yet, and it
drops that where it is closed. -/
def items : Source (List α) α where
  start := some (pure ())
  pull := do
    match ← get with
    | [] => return .done
    | a :: rest => do
      set (rest : List α)
      return .item a
  close := some (set ([] : List α))

theorem wellFormed_items :
  (items : Source (List α) α).WellFormed
  := fun _ w => ⟨w, rfl⟩

end Source

namespace Stream

/-- Entering a new stream either succeeds or leaves the context as it was and the stream
inactive, if and only if the source can be iterated under the frame.  Where it cannot, the
frame stays pushed and the stream active.  Where the stream was entered before, or is
exhausted, entering fails and changes nothing. -/
theorem failed_entry_is_clean_iff
    (source : Source σ α) (f : Frame) (c : Context) (w : σ) :
  ((∀ e s' c' w', (create f).enter source c w = (.error e, s', c', w') →
      c' = c ∧ s'.active = false)
    ↔ source.BeginsAt (f :: c.stack) w)
  ∧ (∀ e w', source.begin.outcome (f :: c.stack) w = (.error e, w') →
      (create f).enter source c w
        = (.error e, ⟨f, some ⟨c.id, c.stack⟩, false, false⟩,
            { c with stack := f :: c.stack }, w'))
  ∧ ∀ s : Stream, s.active = true ∨ s.finished = true →
      s.enter source c w = (.error .enteredTwice, s, c, w)
  := by
  have hnew := enter_of_unused source (s := create f) ⟨rfl, rfl⟩ c w
  have hfails : ∀ e w', source.begin.outcome (f :: c.stack) w = (.error e, w') →
      (create f).enter source c w
        = (.error e, ⟨f, some ⟨c.id, c.stack⟩, false, false⟩,
            { c with stack := f :: c.stack }, w') := by
    intro e w' hbegin
    rw [hnew]
    simp only [create, hbegin]
    rfl
  refine ⟨?_, hfails, fun s hs => enter_of_used source hs c w⟩
  constructor
  · intro hclean
    rcases hbegin : source.begin.outcome (f :: c.stack) w with ⟨e | ⟨⟩, w'⟩
    · obtain ⟨-, hactive⟩ := hclean e _ _ w' (hfails e w' hbegin)
      cases hactive
    · use w', hbegin
  · rintro ⟨w', hbegin⟩ e s' c' w'' henter
    rw [hnew] at henter
    simp only [create, hbegin] at henter
    cases henter

/-- A value that is no source leaves the frame behind when its stream is entered, and the
stream active. -/
theorem failed_entry_of_raw_value :
  ∃ e s c w, (create .empty).enter (⟨none, pure .done, none⟩ : Source Unit Unit) ⟨0, []⟩ ()
      = (.error e, s, c, w)
    ∧ c.stack = [.empty] ∧ s.active = true
  := ⟨_, _, _, _, rfl, rfl, rfl⟩

end Stream

end TradeGate
