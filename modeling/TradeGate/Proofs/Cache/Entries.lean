import TradeGate.Cache.Basic
import Mathlib.Tactic.Common

/-!
# The entries of a cache

A cache is well formed if its entries have distinct keys, stand in the order of the
start of their computations, and are for windows of the timeframe.  Then the entry of a
key is the only one with that key.  Every operation keeps a cache well formed: apart from
the entry that `start` adds at the end and the value that `store` fills in, entries only
ever leave.
-/

namespace TradeGate

namespace Cache

variable {κ α : Type}

/-- The keys are distinct, and the entries stand in the order in which their computations
were started, each for a window of the timeframe. -/
structure WellFormed [BEq κ] (c : Cache κ α) : Prop where
  keys : c.entries.Pairwise fun a b => ¬ (a.key == b.key)
  jobs : c.entries.Pairwise fun a b => a.job < b.job
  started : ∀ e ∈ c.entries, e.job ≤ c.started
  windows : ∀ e ∈ c.entries, c.timeframe.millis ∣ e.window

/-! ### Eviction -/

theorem dropStored_sublist
    (n : Nat) (es : List (Entry κ α)) :
  (dropStored n es).Sublist es
  := by
  induction es generalizing n with
  | nil => cases n <;> apply List.Sublist.refl
  | cons e es ih =>
    cases n with
    | zero => apply List.Sublist.refl
    | succ n =>
      rw [dropStored]
      split
      · apply (ih (n + 1)).cons_cons
      · apply (ih n).cons

/-- The entries of running computations are never evicted. -/
theorem mem_dropStored_of_inFlight
    {n : Nat} {es : List (Entry κ α)} {e : Entry κ α} (he : e ∈ es)
    (hv : e.value = none) :
  e ∈ dropStored n es
  := by
  have hf : e.inFlight = true := by simp [Entry.inFlight, hv]
  induction es generalizing n with
  | nil => cases he
  | cons d es ih =>
    cases n with
    | zero => simpa using he
    | succ n =>
      rw [dropStored]
      obtain rfl | he := List.mem_cons.mp he
      · simp [hf]
      · split
        · apply List.mem_cons_of_mem _ (ih he)
        · apply ih he

theorem evict_sublist
    (bound : Int) (es : List (Entry κ α)) :
  (evict bound es).Sublist es
  := by
  unfold evict
  split
  · apply List.Sublist.refl
  · apply dropStored_sublist

theorem mem_evict_of_inFlight
    {bound : Int} {es : List (Entry κ α)} {e : Entry κ α} (he : e ∈ es)
    (hv : e.value = none) :
  e ∈ evict bound es
  := by
  unfold evict
  split
  · apply he
  · apply mem_dropStored_of_inFlight he hv

/-- Within the bound nothing is evicted. -/
theorem evict_of_length_le
    {bound : Int} {es : List (Entry κ α)} (h : (es.length : Int) ≤ bound) :
  evict bound es = es
  := by
  have hn : es.length - bound.toNat = 0 := by omega
  simp [evict, hn]

/-! ### The end of a computation -/

theorem isCurrent_iff
    {c : Cache κ α} {job : Nat} :
  c.isCurrent job = true ↔ ∃ e ∈ c.entries, e.job = job
  := by
  simp [isCurrent]

theorem mem_dropJob
    {c : Cache κ α} {job : Nat} {e : Entry κ α} :
  e ∈ (c.dropJob job).entries ↔ e ∈ c.entries ∧ e.job ≠ job
  := by
  simp [dropJob]

/-- An entry after a value was stored is an old one, with the value if it is the entry of
the computation. -/
theorem mem_store
    {c : Cache κ α} {job : Nat} {v : α} {e : Entry κ α} :
  e ∈ (c.store job v).entries
    ↔ (e ∈ c.entries ∧ e.job ≠ job)
      ∨ ∃ d ∈ c.entries, d.job = job ∧ e = { d with value := some v }
  := by
  simp only [store, List.mem_map]
  constructor
  · rintro ⟨d, hd, rfl⟩
    split
    next h =>
      right
      use d
    next h =>
      left
      use hd
  · rintro (⟨he, hj⟩ | ⟨d, hd, hj, rfl⟩)
    · use e, he
      simp [hj]
    · use d, hd
      simp [hj]

/-- The end of a computation by a failure or a cancellation drops its entry. -/
theorem entries_settle_of_ne_value
    {c : Cache κ α} {job : Nat} {o : Outcome α} (ho : ∀ v, o ≠ .value v) :
  (c.settle job o).entries = (c.dropJob job).entries
  := by
  cases o with
  | value v => exact absurd rfl (ho v)
  | failure e => rfl
  | cancelled => rfl

/-- An entry after the end of a computation is an old one of another computation, or the
entry of this one with its value. -/
theorem mem_settle
    {c : Cache κ α} {job : Nat} {o : Outcome α} {e : Entry κ α}
    (he : e ∈ (c.settle job o).entries) :
  (e ∈ c.entries ∧ e.job ≠ job)
    ∨ ∃ d ∈ c.entries, ∃ v, d.job = job ∧ o = .value v ∧ e = { d with value := some v }
  := by
  by_cases ho : ∀ v, o ≠ .value v
  · rw [entries_settle_of_ne_value ho] at he
    left
    apply mem_dropJob.mp he
  · push Not at ho
    obtain ⟨v, rfl⟩ := ho
    by_cases hc : c.isCurrent job = true
    · simp only [settle, hc, if_true] at he
      obtain h | ⟨d, hd, hj, rfl⟩ := mem_store.mp ((evict_sublist _ _).mem he)
      · left
        apply h
      · right
        use d, hd, v
    · simp only [settle, hc] at he
      left
      use he
      intro hj
      apply hc
      apply isCurrent_iff.mpr
      use e, he

/-- The end of a computation changes the entries and the counters alone. -/
theorem settle_eq
    (c : Cache κ α) (job : Nat) (o : Outcome α) :
  c.settle job o
    = { c with entries := (c.settle job o).entries, stats := (c.settle job o).stats }
  := by
  cases o with
  | value v =>
    simp only [settle]
    split <;> rfl
  | failure e => rfl
  | cancelled => rfl

@[simp]
theorem timeframe_settle
    (c : Cache κ α) (job : Nat) (o : Outcome α) :
  (c.settle job o).timeframe = c.timeframe
  := by
  rw [settle_eq]

@[simp]
theorem bound_settle
    (c : Cache κ α) (job : Nat) (o : Outcome α) :
  (c.settle job o).bound = c.bound
  := by
  rw [settle_eq]

@[simp]
theorem started_settle
    (c : Cache κ α) (job : Nat) (o : Outcome α) :
  (c.settle job o).started = c.started
  := by
  rw [settle_eq]

/-! ### The entry of a key -/

section Keys

variable [BEq κ]

theorem mem_of_find?
    {c : Cache κ α} {key : κ} {e : Entry κ α} (h : c.find? key = some e) :
  e ∈ c.entries
  := List.mem_of_find?_eq_some h

theorem key_of_find?
    {c : Cache κ α} {key : κ} {e : Entry κ α} (h : c.find? key = some e) :
  e.key == key
  := by
  simpa using List.find?_some h

theorem mem_others
    {c : Cache κ α} {key : κ} {e : Entry κ α} :
  e ∈ c.others key ↔ e ∈ c.entries ∧ ¬ (e.key == key)
  := by
  simp [others]

theorem find?_eq_none
    {c : Cache κ α} {key : κ} :
  c.find? key = none ↔ ∀ e ∈ c.entries, ¬ (e.key == key)
  := by
  simp [find?]

/-- How a request is served: by the value in the entry of its key and window, by the
computation of that entry, or by a new computation where there is no such entry. -/
theorem request_cases
    (c : Cache κ α) (key : κ) (window : Int) :
  (∃ e v, c.find? key = some e ∧ e.window = window ∧ e.value = some v
      ∧ c.request key window
        = (.hit v, { c with stats := { c.stats with hits := c.stats.hits + 1 } }))
    ∨ (∃ e, c.find? key = some e ∧ e.window = window ∧ e.value = none
      ∧ c.request key window
        = (.join e.job, { c with stats := { c.stats with joins := c.stats.joins + 1 } }))
    ∨ ((∀ e, c.find? key = some e → e.window ≠ window)
      ∧ c.request key window = (.start (c.started + 1), (c.start key window).2))
  := by
  unfold request
  cases hf : c.find? key with
  | none =>
    right; right
    constructor
    · simp
    · rfl
  | some e =>
    by_cases hw : e.window = window
    · cases hv : e.value with
      | some v =>
        left
        use e, v
        simp [hw, hv]
      | none =>
        right; left
        use e
        simp [hw, hv]
    · right; right
      constructor
      · simpa using hw
      · simp only [hw, if_false]
        rfl

variable [EquivBEq κ]

/-- The entry of a key is the only entry with that key. -/
theorem WellFormed.find?_eq_some
    {c : Cache κ α} (hc : c.WellFormed) {key : κ} {e : Entry κ α}
    (he : e ∈ c.entries) (hk : e.key == key) :
  c.find? key = some e
  := by
  obtain ⟨before, rest, hsplit⟩ := List.append_of_mem he
  have hkeys := hc.keys
  rw [hsplit] at hkeys
  apply List.find?_eq_some_iff_append.mpr
  use hk, before, rest, hsplit
  intro a ha
  have hne := (List.pairwise_append.mp hkeys).2.2 a ha e List.mem_cons_self
  have : ¬ (a.key == key) := fun h => hne (BEq.trans h (BEq.symm hk))
  simpa using this

end Keys

end Cache

end TradeGate
