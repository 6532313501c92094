import TradeGate.Proofs.Cache.Provenance
import Mathlib.Data.List.Basic

/-!
# Eviction

The bound of a cache limits the values that are stored.  It is enforced where a value is
stored: of the entries that hold values the first ones leave, as many as there are entries
above the bound.  The entries of running computations count, but stay.  As entries stand in
the order in which their computations were started, those leave whose computations were
started first.
-/

namespace TradeGate

theorem Entry.exists_value_of_not_inFlight
    {κ α : Type} {e : Entry κ α} (he : e.inFlight = false) :
  ∃ v, e.value = some v
  := by
  simpa [inFlight, ← Option.isSome_iff_ne_none, Option.isSome_iff_exists] using he

namespace Cache

variable {κ α : Type}

/-! ### The entries that hold values -/

/-- The entries that hold a value. -/
def stored (es : List (Entry κ α)) : List (Entry κ α) :=
  es.filter fun e => !e.inFlight

/-- The first `k` of the entries that hold a value have left; all others are there, in their
order. -/
structure WithoutFirst (k : Nat) (es kept : List (Entry κ α)) : Prop where
  sublist : kept.Sublist es
  running : kept.filter Entry.inFlight = es.filter Entry.inFlight
  drops : stored kept = (stored es).drop k

theorem withoutFirst_dropStored
    (n : Nat) (es : List (Entry κ α)) :
  WithoutFirst n es (dropStored n es)
  := by
  induction es generalizing n with
  | nil => cases n <;> constructor <;> simp [dropStored, stored]
  | cons e es ih =>
    cases n with
    | zero => constructor <;> simp
    | succ n =>
      rw [dropStored]
      by_cases he : e.inFlight = true
      · have hkept := ih (n + 1)
        rw [if_pos he]
        constructor
        · apply hkept.sublist.cons_cons
        · simp only [List.filter_cons, he, if_true, hkept.running]
        · simpa [stored, he] using hkept.drops
      · have hkept := ih n
        rw [if_neg he]
        constructor
        · apply hkept.sublist.cons
        · simpa [he] using hkept.running
        · simpa [stored, he] using hkept.drops

theorem length_eq_stored
    (es : List (Entry κ α)) :
  es.length = (es.filter Entry.inFlight).length + (stored es).length
  := List.length_eq_length_filter_add Entry.inFlight

/-- As many entries leave as there are to leave. -/
theorem WithoutFirst.length_eq
    {k : Nat} {es kept : List (Entry κ α)} (h : WithoutFirst k es kept) :
  kept.length + min k (stored es).length = es.length
  := by
  have hkept := length_eq_stored kept
  have hes := length_eq_stored es
  rw [h.running, h.drops, List.length_drop] at hkept
  omega

/-- Only the entries that hold values can leave. -/
theorem WithoutFirst.of_min
    {k : Nat} {es kept : List (Entry κ α)} (h : WithoutFirst k es kept) :
  WithoutFirst (min k (stored es).length) es kept
  := by
  use h.sublist, h.running
  rw [h.drops]
  obtain hk | hk := Nat.le_total k (stored es).length
  · rw [Nat.min_eq_left hk]
  · rw [Nat.min_eq_right hk, List.drop_length, List.drop_eq_nil_of_le hk]

/-- Above a bound the first stored entries leave, as many as there are entries above it. -/
theorem withoutFirst_evict
    {bound : Int} (hb : 0 < bound) (es : List (Entry κ α)) :
  WithoutFirst (es.length - bound.toNat) es (evict bound es)
  := by
  rw [evict, if_neg (by omega)]
  apply withoutFirst_dropStored

/-- After an eviction no more values are stored than the bound allows. -/
theorem length_stored_evict
    {bound : Int} (hb : 0 < bound) (es : List (Entry κ α)) :
  ((stored (evict bound es)).length : Int) ≤ bound
  := by
  have hkept := withoutFirst_evict hb es
  have hlength := hkept.length_eq
  have hall := length_eq_stored (evict bound es)
  rw [hkept.drops, List.length_drop] at hall ⊢
  omega

theorem length_stored_le
    {es es' : List (Entry κ α)} (h : es'.Sublist es) :
  (stored es').length ≤ (stored es).length
  := (h.filter _).length_le

/-- An entry has its job, key and window also when a value was stored. -/
theorem exists_mem_store
    {c : Cache κ α} {e : Entry κ α} (he : e ∈ c.entries) (job : Nat) (v : α) :
  ∃ d ∈ (c.store job v).entries, d.job = e.job ∧ d.key = e.key ∧ d.window = e.window
  := by
  by_cases hj : e.job = job
  · use { e with value := some v }, mem_store.mpr (.inr ⟨e, he, hj, rfl⟩)
  · use e, mem_store.mpr (.inl ⟨he, hj⟩)

/-- An entry that is there no more after an eviction held a value. -/
theorem stored_of_not_mem_evict
    {bound : Int} {es : List (Entry κ α)} {e : Entry κ α} (he : e ∈ es)
    (hgone : e ∉ evict bound es) :
  0 < bound ∧ e.inFlight = false
  := by
  constructor
  · by_contra hb
    rw [evict_of_nonpos (Int.not_lt.mp hb)] at hgone
    apply hgone he
  · by_contra hv
    apply hgone
    apply mem_evict_of_inFlight he
    simpa [Entry.inFlight] using hv

/-- Of two entries that hold values, the one that an eviction takes has the smaller number. -/
theorem job_lt_of_not_mem_evict
    {bound : Int} (hb : 0 < bound) {es : List (Entry κ α)}
    (hjobs : es.Pairwise fun a b => a.job < b.job) {e d : Entry κ α} (he : e ∈ es)
    (hev : e.inFlight = false) (hgone : e ∉ evict bound es) (hd : d ∈ evict bound es)
    (hdv : d.inFlight = false) :
  e.job < d.job
  := by
  -- The stored entries are those that go, which come first, and those that stay.
  have hkept := (withoutFirst_evict hb es).drops
  have hsplit := List.take_append_drop (es.length - bound.toNat) (stored es)
  have hpairs : (stored es).Pairwise fun a b => a.job < b.job := hjobs.sublist List.filter_sublist
  rw [← hsplit] at hpairs
  apply (List.pairwise_append.mp hpairs).2.2
  · have hmem : e ∈ stored es := List.mem_filter.mpr ⟨he, by simp [hev]⟩
    rw [← hsplit] at hmem
    obtain hmem | hmem := List.mem_append.mp hmem
    · exact hmem
    · rw [← hkept] at hmem
      exact absurd (List.mem_filter.mp hmem).1 hgone
  · rw [← hkept]
    apply List.mem_filter.mpr ⟨hd, by simp [hdv]⟩

end Cache

namespace Traffic

variable {γ κ α : Type} [BEq κ] [BEq γ]

/-! ### How entries come and go -/

/-- A value that is stored stands in the entry of its computation, and then entries are evicted. -/
theorem Ends.entries_step
    {t : Traffic γ κ α} {x : CacheEvent γ κ α} {job : Nat} {v : α}
    (hends : t.Ends x job (.value v)) (hcur : t.cache.isCurrent job = true) :
  (t.step x).1.cache.entries = Cache.evict t.cache.bound (t.cache.store job v).entries
  := by
  cases x with
  | finish job' o =>
    obtain ⟨rfl, rfl, hr⟩ := hends
    simp [step, finish, hr, Cache.settle, hcur]
  | _ => cases hends

/-- What an event does to the entries: some leave; or one is added for the computation that the
event starts; or the event stores the value of a computation. -/
theorem entries_step
    (t : Traffic γ κ α) (x : CacheEvent γ κ α) :
  (t.step x).1.cache.entries.Sublist t.cache.entries
    ∨ (∃ key window, t.Starts x (t.cache.started + 1) key window
      ∧ (t.step x).1.cache.entries
        = t.cache.others key ++ [⟨key, window, t.cache.started + 1, none⟩])
    ∨ ∃ job v, t.Ends x job (.value v) ∧ t.cache.isCurrent job = true
  := by
  cases x with
  | call caller key now =>
    obtain ⟨e, v, -, -, -, h⟩ | ⟨e, -, -, -, h⟩ | ⟨hf, h⟩ := t.call_cases caller key now
    · left
      simp [step, h]
    · left
      simp [step, h]
    · right; left
      use key, t.cache.windowAt now, starts_call_iff.mpr ⟨⟨rfl, rfl, rfl⟩, hf⟩
      simp [step, h, Cache.start]
  | finish job o =>
    by_cases hr : t.isRunning job = true
    · simp only [step, finish, hr, if_true]
      by_cases ho : ∀ v, o ≠ .value v
      · left
        rw [Cache.entries_settle_of_ne_value ho]
        apply List.filter_sublist
      · push Not at ho
        obtain ⟨v, rfl⟩ := ho
        by_cases hcur : t.cache.isCurrent job = true
        · right; right
          use job, v, ⟨rfl, rfl, hr⟩, hcur
        · left
          simp [Cache.settle, hcur]
    · left
      simp [step, finish, hr]
  | cancel caller =>
    left
    apply List.Sublist.refl
  | clear key =>
    left
    apply List.filter_sublist
  | flush =>
    left
    apply List.nil_sublist

/-- No event stores more values than the bound allows. -/
theorem length_stored_step
    {t : Traffic γ κ α} (hb : 0 < t.cache.bound)
    (ht : ((Cache.stored t.cache.entries).length : Int) ≤ t.cache.bound) (x : CacheEvent γ κ α) :
  ((Cache.stored (t.step x).1.cache.entries).length : Int) ≤ t.cache.bound
  := by
  obtain hs | ⟨key, window, -, h⟩ | ⟨job, v, hends, hcur⟩ := t.entries_step x
  · have := Cache.length_stored_le hs
    omega
  · have hothers : (t.cache.others key).Sublist t.cache.entries := List.filter_sublist
    have hnew : Cache.stored [(⟨key, window, t.cache.started + 1, none⟩ : Entry κ α)] = [] := rfl
    have := Cache.length_stored_le hothers
    rw [h, Cache.stored, List.filter_append, ← Cache.stored, ← Cache.stored, hnew,
      List.append_nil]
    omega
  · rw [hends.entries_step hcur]
    apply Cache.length_stored_evict hb

/-- An entry stays, unless its key is dropped, its computation ends without a value, a
computation for its key starts, or it held a value and is evicted when a value is stored. -/
theorem stays_or_leaves
    {t : Traffic γ κ α} {e : Entry κ α} (he : e ∈ t.cache.entries) (x : CacheEvent γ κ α) :
  (∃ d ∈ (t.step x).1.cache.entries, d.job = e.job ∧ d.key = e.key ∧ d.window = e.window)
    ∨ x.Drops e.key
    ∨ (∃ o, t.Ends x e.job o ∧ ∀ v, o ≠ .value v)
    ∨ (∃ job key window, t.Starts x job key window ∧ e.key == key)
    ∨ ∃ job v d, t.Ends x job (.value v) ∧ t.cache.isCurrent job = true
      ∧ d ∈ (t.cache.store job v).entries ∧ d.job = e.job
      ∧ d ∉ (t.step x).1.cache.entries
  := by
  cases x with
  | call caller key now =>
    obtain ⟨d, v, -, -, -, h⟩ | ⟨d, -, -, -, h⟩ | ⟨hf, h⟩ := t.call_cases caller key now
    · left
      use e
      simpa [step, h] using he
    · left
      use e
      simpa [step, h] using he
    · by_cases hk : e.key == key
      · right; right; right; left
        use t.cache.started + 1, key, t.cache.windowAt now
        use starts_call_iff.mpr ⟨⟨rfl, rfl, rfl⟩, hf⟩
      · left
        use e
        simp [step, h, Cache.start, Cache.mem_others, he, hk]
  | finish job o =>
    by_cases hr : t.isRunning job = true
    · by_cases ho : ∀ v, o ≠ .value v
      · by_cases hj : e.job = job
        · right; right; left
          use o, ⟨hj, rfl, hr⟩
        · left
          use e
          simp only [step, finish, hr, if_true]
          rw [Cache.entries_settle_of_ne_value ho, Cache.mem_dropJob]
          use ⟨he, hj⟩
      · push Not at ho
        obtain ⟨v, rfl⟩ := ho
        by_cases hcur : t.cache.isCurrent job = true
        · obtain ⟨d, hd, hj, hk, hw⟩ := Cache.exists_mem_store he job v
          by_cases hkept : d ∈ (t.step (.finish job (.value v))).1.cache.entries
          · left
            use d, hkept, hj, hk, hw
          · right; right; right; right
            use job, v, d, ⟨rfl, rfl, hr⟩, hcur, hd, hj
        · left
          use e
          simpa [step, finish, hr, Cache.settle, hcur] using he
    · left
      use e
      simpa [step, finish, hr] using he
  | cancel caller =>
    left
    use e, he
  | clear key =>
    by_cases hk : e.key == key
    · right; left
      apply hk
    · left
      use e, Cache.mem_others.mpr ⟨he, hk⟩
  | flush =>
    right; left
    trivial

end Traffic

namespace CacheHistory

variable {γ κ α : Type} [BEq γ] [BEq κ] (h : CacheHistory γ κ α)

/-- The event at a place stores a value in the entry of a computation: the computation ends with
it while its entry is in the cache. -/
def Stores (n job : Nat) (v : α) : Prop :=
  h.Ends n job (.value v) ∧ (h.after n).cache.isCurrent job = true

/-- The event at a place stores a value and evicts an entry. -/
def Evicts (n : Nat) (e : Entry κ α) : Prop :=
  ∃ job v, h.Stores n job v ∧ e ∈ ((h.after n).cache.store job v).entries
    ∧ e ∉ (h.after (n + 1)).cache.entries

variable {h}

/-! ### The order of the entries -/

theorem wellFormed_after
    (n : Nat) :
  (h.after n).cache.WellFormed
  := by
  apply always_after (P := fun t => t.cache.WellFormed)
  · apply Cache.wellFormed_create
  · intro t x ht
    apply Traffic.wellFormed_step ht

/-- Of two computations the one with the smaller number was started first. -/
theorem Starts.lt_of_job_lt
    {m n job job' : Nat} {key key' : κ} {window window' : Int}
    (hs : h.Starts m job key window) (hs' : h.Starts n job' key' window') (hlt : job < job') :
  m < n
  := by
  by_contra hmn
  obtain hnm | rfl := Nat.lt_or_eq_of_le (Nat.not_lt.mp hmn)
  · have := hs'.job_lt hs hnm
    omega
  · have := hs.job_eq
    have := hs'.job_eq
    omega

/-- The entries stand in the order in which their computations were started. -/
theorem pairwise_starts
    {n : Nat} (hn : n ≤ h.events.length) :
  (h.after n).cache.entries.Pairwise fun a b => ∃ p q, p < q
    ∧ h.Starts p a.job a.key a.window ∧ h.Starts q b.job b.key b.window
  := by
  apply (wellFormed_after n).jobs.imp_of_mem
  intro a b ha hb hlt
  obtain ⟨p, -, hp, -⟩ := origin_of_mem_entries hn a ha
  obtain ⟨q, -, hq, -⟩ := origin_of_mem_entries hn b hb
  use p, q, hp.lt_of_job_lt hq hlt

/-! ### Stored values -/

/-- Where a value is stored, the entries are those with the value after an eviction. -/
theorem Stores.entries_after
    {n job : Nat} {v : α} (hs : h.Stores n job v) :
  (h.after (n + 1)).cache.entries
    = Cache.evict h.bound ((h.after n).cache.store job v).entries
  := by
  obtain ⟨⟨x, hx, hends⟩, hcur⟩ := hs
  rw [after_succ hx, hends.entries_step hcur, bound_after]

/-- What is evicted is an entry that holds a value, and there is a bound. -/
theorem Evicts.stored
    {n : Nat} {e : Entry κ α} (he : h.Evicts n e) :
  0 < h.bound ∧ e.inFlight = false
  := by
  obtain ⟨job, v, hs, he, hgone⟩ := he
  rw [hs.entries_after] at hgone
  apply Cache.stored_of_not_mem_evict he hgone

theorem length_stored_after
    (hb : 0 < h.bound) (n : Nat) :
  ((Cache.stored (h.after n).cache.entries).length : Int) ≤ h.bound
  := by
  have hall : (h.after n).cache.bound = h.bound
      ∧ ((Cache.stored (h.after n).cache.entries).length : Int) ≤ h.bound := by
    apply always_after (P := fun t => t.cache.bound = h.bound
      ∧ ((Cache.stored t.cache.entries).length : Int) ≤ h.bound)
    · use rfl
      apply Int.le_of_lt hb
    · rintro t x ⟨hbound, ht⟩
      rw [← hbound] at hb ht ⊢
      use (Traffic.settings_step t x).2
      apply Traffic.length_stored_step hb ht
  apply hall.2

/-- An entry that leaves the cache leaves for one of four reasons. -/
theorem leaves_cases
    {n : Nat} {e : Entry κ α} (he : e ∈ (h.after n).cache.entries)
    (hgone : ∀ d ∈ (h.after (n + 1)).cache.entries, d.job ≠ e.job) :
  h.Drops n e.key
    ∨ (∃ o, h.Ends n e.job o ∧ ∀ v, o ≠ .value v)
    ∨ (∃ job key window, h.Starts n job key window ∧ e.key == key)
    ∨ ∃ d, h.Evicts n d ∧ d.job = e.job
  := by
  cases hx : h.events[n]? with
  | none =>
    rw [after_succ_of_none hx] at hgone
    exact absurd rfl (hgone e he)
  | some x =>
    have hafter := after_succ hx
    rw [hafter] at hgone
    obtain ⟨d, hd, hj, -⟩ | hd | ⟨o, hends, ho⟩ | ⟨job, key, window, hs, hk⟩ |
      ⟨job, v, d, hends, hcur, hd, hj, hnot⟩ := Traffic.stays_or_leaves he x
    · exact absurd hj (hgone d hd)
    · left
      use x, hx
    · right; left
      use o, ⟨x, hx, hends⟩
    · right; right; left
      use job, key, window, ⟨x, hx, hs⟩
    · right; right; right
      use d, ⟨job, v, ⟨⟨x, hx, hends⟩, hcur⟩, hd, by rwa [hafter]⟩

/-! ### The laws of eviction -/

variable (h)

/-- A bound limits the stored values, at the cost of those whose computations were started
first. -/
structure KeepsBound : Prop where
  /-- With a bound, no more values are stored than it allows, and so it bounds the entries as long
  as no computation runs. -/
  stored : 0 < h.bound → ∀ n, ((Cache.stored (h.after n).cache.entries).length : Int) ≤ h.bound
  size : 0 < h.bound → ∀ n, (∀ e ∈ (h.after n).cache.entries, e.inFlight = false) →
    ((h.after n).cache.size : Int) ≤ h.bound
  /-- The entries stand in the order of the start of their computations. -/
  order : ∀ n ≤ h.events.length, (h.after n).cache.entries.Pairwise fun a b => ∃ p q, p < q
    ∧ h.Starts p a.job a.key a.window ∧ h.Starts q b.job b.key b.window
  /-- Where a value is stored, as many entries leave as there are above the bound, or all that
  hold values; they are the first ones that hold values, and the others stay in their order. -/
  evicted : 0 < h.bound → ∀ n job v, h.Stores n job v →
    ∀ es, es = ((h.after n).cache.store job v).entries →
    ∀ k, k = min (es.length - h.bound.toNat) (Cache.stored es).length →
      Cache.WithoutFirst k es (h.after (n + 1)).cache.entries
        ∧ (h.after (n + 1)).cache.size + k = es.length
  /-- Only entries that hold values are evicted, and none without a bound. -/
  running : ∀ n e, h.Evicts n e → e.inFlight = false
  unbounded : h.bound ≤ 0 → ∀ n e, ¬ h.Evicts n e
  /-- Otherwise entries leave because their key is dropped, because their computation ends without
  a value, or because a computation for their key starts. -/
  leaves : ∀ n, ∀ e ∈ (h.after n).cache.entries,
    (∀ d ∈ (h.after (n + 1)).cache.entries, d.job ≠ e.job) →
    h.Drops n e.key ∨ (∃ o, h.Ends n e.job o ∧ ∀ v, o ≠ .value v)
      ∨ (∃ job key window, h.Starts n job key window ∧ e.key == key)
      ∨ ∃ d, h.Evicts n d ∧ d.job = e.job

theorem eviction_keeps_bound :
  h.KeepsBound
  := by
  constructor
  case stored => exact fun hb n => length_stored_after hb n
  case size =>
    intro hb n hall
    have hstored : Cache.stored (h.after n).cache.entries = (h.after n).cache.entries := by
      apply List.filter_eq_self.mpr
      intro e he
      simp [hall e he]
    have := length_stored_after hb n
    rwa [hstored] at this
  case order => exact fun n hn => pairwise_starts hn
  case evicted =>
    rintro hb n job v hs es rfl k rfl
    rw [Cache.size, hs.entries_after]
    have hkept := Cache.withoutFirst_evict hb ((h.after n).cache.store job v).entries
    constructor
    · apply hkept.of_min
    · apply hkept.length_eq
  case running => exact fun n e he => he.stored.2
  case unbounded =>
    intro hb n e he
    have := he.stored.1
    omega
  case leaves => exact fun n e he hgone => leaves_cases he hgone

/-- Three computations in a cache for one value, the second of which ends first. -/
def crowded : CacheHistory Nat Nat Nat where
  timeframe := .m1
  bound := 1
  events := [.call 1 7 0, .call 2 8 5, .call 3 9 10, .finish 2 (.value 20)]

/-- There are two entries above the bound, but only the new value can go. -/
theorem eviction_keeps_bound_crowded :
  0 < crowded.bound ∧ crowded.Stores 3 2 20
    ∧ ((Cache.stored (crowded.after 4).cache.entries).length : Int) ≤ 1
    ∧ Cache.WithoutFirst 1 [⟨7, 0, 1, none⟩, ⟨8, 0, 2, some 20⟩, ⟨9, 0, 3, none⟩]
        (crowded.after 4).cache.entries
    ∧ (crowded.after 4).cache.size + 1 = 3
  := by
  have hb : 0 < crowded.bound := Int.one_pos
  have hs : crowded.Stores 3 2 20 := ⟨⟨.finish 2 (.value 20), rfl, rfl, rfl, rfl⟩, rfl⟩
  have hlaws := eviction_keeps_bound crowded
  use hb, hs, hlaws.stored hb 4
  apply hlaws.evicted hb 3 2 20 hs _ rfl 1 rfl

end CacheHistory

end TradeGate
