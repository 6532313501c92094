import TradeGate.Proofs.Cache.Eviction

/-!
# Eviction and the order of storing

Values are evicted in the order in which their computations were started.  This is the order in
which they were stored, except where a computation overtakes another one: it is started later
and ends earlier.  Then the value that was stored last may be the first one to go.
-/

namespace TradeGate

namespace CacheHistory

variable {γ κ α : Type} [BEq γ] [BEq κ] (h : CacheHistory γ κ α)

/-- A computation overtakes another one: it is started later and ends earlier. -/
def Overtakes (job job' : Nat) : Prop :=
  ∃ p q f g key key' window window' o o', h.Starts q job key window
    ∧ h.Starts p job' key' window' ∧ h.Ends g job o ∧ h.Ends f job' o' ∧ p < q ∧ g < f

/-- The event at a place evicts an entry and keeps another one that holds a value. -/
def EvictsBefore (n : Nat) (e d : Entry κ α) : Prop :=
  h.Evicts n e ∧ d ∈ (h.after (n + 1)).cache.entries ∧ d.inFlight = false

/-- Values are evicted in the order in which they were stored. -/
def EvictsAsStored : Prop :=
  ∀ n e d f g v w, h.EvictsBefore n e d → h.Stores f e.job v → h.Stores g d.job w → f < g

variable {h}

/-! ### Where values were stored -/

/-- A value was stored in the entry that holds it. -/
theorem stores_of_mem_entries
    {n : Nat} (hn : n ≤ h.events.length) :
  ∀ e ∈ (h.after n).cache.entries, ∀ v, e.value = some v → ∃ f < n, h.Stores f e.job v
  := by
  apply always (P := fun n => ∀ e ∈ (h.after n).cache.entries, ∀ v, e.value = some v →
    ∃ f < n, h.Stores f e.job v) _ _ hn
  · rintro e ⟨⟩
  · intro n x hx ih e he v hv
    rw [after_succ hx] at he
    obtain ⟨he, -, -⟩ | ⟨hnone, -⟩ | ⟨d, hd, w, hends, rfl⟩ := Traffic.mem_entries_step he
    · obtain ⟨f, hf, hs⟩ := ih e he v hv
      use f, Nat.lt_succ_of_lt hf
    · rw [hnone] at hv
      cases hv
    · cases hv
      use n, Nat.lt_succ_self n, ⟨x, hx, hends⟩
      apply Cache.isCurrent_iff.mpr
      use d

/-- The value of an entry was stored, and its computation was started for the key and the window
of the entry. -/
theorem origin_of_stored
    {n : Nat} (hn : n ≤ h.events.length) {e : Entry κ α} (he : e ∈ (h.after n).cache.entries)
    (hstored : e.inFlight = false) :
  ∃ p f v, h.Starts p e.job e.key e.window ∧ e.value = some v ∧ h.Stores f e.job v ∧ f < n
  := by
  obtain ⟨v, hv⟩ := Entry.exists_value_of_not_inFlight hstored
  obtain ⟨p, -, hp, -⟩ := origin_of_mem_entries hn e he
  obtain ⟨f, hf, hs⟩ := stores_of_mem_entries hn e he v hv
  use p, f, v, hp, hv, hs

theorem Stores.lt_length
    {n job : Nat} {v : α} (hs : h.Stores n job v) :
  n < h.events.length
  := CacheHistory.lt_length (ends_iff.mp hs.1).1

theorem Evicts.origin
    {n : Nat} {e : Entry κ α} (he : h.Evicts n e) :
  ∃ p f v, h.Starts p e.job e.key e.window ∧ e.value = some v ∧ h.Stores f e.job v ∧ f ≤ n
  := by
  obtain ⟨job, w, hs, hmem, -⟩ := id he
  have hn := Nat.le_of_lt hs.lt_length
  obtain ⟨hmem, -⟩ | ⟨d, hd, rfl, rfl⟩ := Cache.mem_store.mp hmem
  · obtain ⟨p, f, v, hp, hv, hf, hfn⟩ := origin_of_stored hn hmem he.stored.2
    use p, f, v, hp, hv, hf, Nat.le_of_lt hfn
  · obtain ⟨p, -, hp, -⟩ := origin_of_mem_entries hn d hd
    use p, n, w, hp, rfl, hs, Nat.le_refl n

theorem EvictsBefore.origin
    {n : Nat} {e d : Entry κ α} (he : h.EvictsBefore n e d) :
  ∃ q g w, h.Starts q d.job d.key d.window ∧ d.value = some w ∧ h.Stores g d.job w ∧ g ≤ n
  := by
  obtain ⟨⟨job, v, hs, -⟩, hd, hstored⟩ := he
  obtain ⟨q, g, w, hq, hw, hg, hgn⟩ := origin_of_stored hs.lt_length hd hstored
  use q, g, w, hq, hw, hg, Nat.le_of_lt_succ hgn

/-! ### The order of eviction -/

/-- Of two entries that hold values, the evicted one has the smaller number. -/
theorem EvictsBefore.job_lt
    {n : Nat} {e d : Entry κ α} (he : h.EvictsBefore n e d) :
  e.job < d.job
  := by
  obtain ⟨hevicts, hd, hstored⟩ := he
  obtain ⟨hb, hgone⟩ := hevicts.stored
  obtain ⟨job, v, hs, hmem, hnot⟩ := hevicts
  rw [hs.entries_after] at hd hnot
  apply Cache.job_lt_of_not_mem_evict hb ((wellFormed_after n).store job v).jobs hmem hgone hnot
    hd hstored

/-- A value is evicted before another one if and only if its computation was started earlier, so it
was stored earlier if and only if the other computation did not overtake it. -/
theorem EvictsBefore.lt_iff_not_overtakes
    {n f g : Nat} {e d : Entry κ α} {v w : α} (he : h.EvictsBefore n e d)
    (hf : h.Stores f e.job v) (hg : h.Stores g d.job w) :
  f < g ↔ ¬ h.Overtakes d.job e.job
  := by
  obtain ⟨p, -, -, hp, -⟩ := he.1.origin
  obtain ⟨q, -, -, hq, -⟩ := he.origin
  have hpq := hp.lt_of_job_lt hq he.job_lt
  constructor
  · rintro hlt ⟨p', q', f', g', key, key', window, window', o, o', -, -, hg', hf', -, hgf⟩
    obtain rfl := hf.1.place_eq hf'
    obtain rfl := hg.1.place_eq hg'
    omega
  · intro hnot
    obtain hlt | rfl | hgf := Nat.lt_trichotomy f g
    · exact hlt
    · have := he.job_lt
      have := hf.1.job_eq hg.1
      omega
    · apply absurd _ hnot
      use p, q, f, g, d.key, e.key, d.window, e.window, .value w, .value v, hq, hp, hg.1, hf.1

variable (h)

/-- Of two values of which one is evicted and the other one stays, both were stored by then, and
the computation of the evicted one was started first.  It was also stored first, throughout, if
and only if no computation whose value stays overtook one whose value is evicted. -/
theorem eviction_follows_starts :
  (∀ n e d, h.EvictsBefore n e d → ∃ p q f g v w, p < q
    ∧ h.Starts p e.job e.key e.window ∧ h.Starts q d.job d.key d.window
    ∧ e.value = some v ∧ h.Stores f e.job v ∧ f ≤ n
    ∧ d.value = some w ∧ h.Stores g d.job w ∧ g ≤ n)
  ∧ (h.EvictsAsStored ↔ ∀ n e d, h.EvictsBefore n e d → ¬ h.Overtakes d.job e.job)
  := by
  constructor
  · intro n e d he
    obtain ⟨p, f, v, hp, hv, hf, hfn⟩ := he.1.origin
    obtain ⟨q, g, w, hq, hw, hg, hgn⟩ := he.origin
    use p, q, f, g, v, w, hp.lt_of_job_lt hq he.job_lt
  · constructor
    · intro hlaw n e d he
      obtain ⟨-, f, v, -, -, hf, -⟩ := he.1.origin
      obtain ⟨-, g, w, -, -, hg, -⟩ := he.origin
      apply (he.lt_iff_not_overtakes hf hg).mp
      apply hlaw n e d f g v w he hf hg
    · intro hnone n e d f g v w he hf hg
      apply (he.lt_iff_not_overtakes hf hg).mpr
      apply hnone n e d he

/-- Two computations of which the second one ends first, and a third one that makes the cache
overflow when the first one ends. -/
def overtaken : CacheHistory Nat Nat Nat where
  timeframe := .m15
  bound := 2
  events := [.call 1 7 0, .call 2 8 0, .finish 2 (.value 20), .call 3 9 0, .finish 1 (.value 10)]

theorem overtaken_stores_first :
  overtaken.Stores 4 1 10
  := ⟨⟨.finish 1 (.value 10), rfl, rfl, rfl, rfl⟩, rfl⟩

theorem overtaken_stores_second :
  overtaken.Stores 2 2 20
  := ⟨⟨.finish 2 (.value 20), rfl, rfl, rfl, rfl⟩, rfl⟩

theorem overtaken_evictsBefore :
  overtaken.EvictsBefore 4 ⟨7, 0, 1, some 10⟩ ⟨8, 0, 2, some 20⟩
  := by
  have hevicts : overtaken.Evicts 4 ⟨7, 0, 1, some 10⟩ := by
    use 1, 10, overtaken_stores_first, List.mem_cons_self
    decide
  use hevicts, List.mem_cons_self
  rfl

/-- The evicted value was started first. -/
theorem eviction_follows_starts_overtaken :
  (∃ p q, p < q ∧ overtaken.Starts p 1 7 0 ∧ overtaken.Starts q 2 8 0)
    ∧ overtaken.Overtakes 2 1 ∧ ¬ overtaken.EvictsAsStored
  := by
  have hlaws := eviction_follows_starts overtaken
  obtain ⟨p, q, -, -, -, -, hpq, hp, hq, -⟩ := hlaws.1 4 _ _ overtaken_evictsBefore
  have hover : overtaken.Overtakes 2 1 := by
    use p, q, 4, 2, 8, 7, 0, 0, .value 20, .value 10, hq, hp, overtaken_stores_second.1,
      overtaken_stores_first.1, hpq
    decide
  use ⟨p, q, hpq, hp, hq⟩, hover
  intro hlaw
  apply hlaws.2.mp hlaw 4 _ _ overtaken_evictsBefore hover

/-- The value that was just stored is evicted, and the older one stays. -/
theorem just_stored_value_is_evicted :
  overtaken.EvictsBefore 4 ⟨7, 0, 1, some 10⟩ ⟨8, 0, 2, some 20⟩
    ∧ overtaken.Stores 4 1 10 ∧ overtaken.Stores 2 2 20
    ∧ ¬ overtaken.EvictsAsStored
  := by
  use overtaken_evictsBefore, overtaken_stores_first, overtaken_stores_second
  intro hlaw
  have := hlaw 4 _ _ 4 2 10 20 overtaken_evictsBefore overtaken_stores_first
    overtaken_stores_second
  omega

end CacheHistory

end TradeGate
