import TradeGate.Proofs.Risk.Evaluation
import TradeGate.Proofs.Text.Separated
import Mathlib.Data.Finset.Card
import Mathlib.Data.Set.Function

/-!
# Tracking open positions

Positions are opened and closed in slots, each of a strategy, an exchange and a symbol.  A
registry keeps them under the joined names of their slots.  So it tracks what stands open in
every slot exactly if no two of the slots in use join to one key; names without the separator
never do.
-/

namespace TradeGate

/-- Where a position may be open: one symbol of a strategy on an exchange. -/
structure Slot where
  strategy : String
  exchange : String
  symbol : String
deriving DecidableEq, Repr

/-- The key under which the position of a slot is kept. -/
def Slot.key (s : Slot) : String :=
  OpenPosition.keyOf s.strategy s.exchange s.symbol

/-- The slot of a position. -/
def OpenPosition.slot (p : OpenPosition) : Slot :=
  ⟨p.strategy, p.exchange, p.symbol⟩

/-- What may happen in a slot: a position is opened, or the slot is closed. -/
inductive PositionEvent where
  | opened (p : OpenPosition)
  | closed (s : Slot)

namespace PositionEvent

/-- The slot of an event. -/
def slot : PositionEvent → Slot
  | opened p => p.slot
  | closed s => s

/-- The position that an event opens. -/
def position? : PositionEvent → Option OpenPosition
  | opened p => some p
  | closed _ => none

theorem slot_of_position?
    {e : PositionEvent} {p : OpenPosition} (h : e.position? = some p) :
  p.slot = e.slot
  := by
  cases e with
  | opened q =>
    obtain rfl : q = p := by simpa [position?] using h
    rfl
  | closed s => cases h

end PositionEvent

/-! ### What stands open -/

/-- The position that stands in a slot after some events: the one that was opened last, unless
the slot was closed since. -/
def standing (es : List PositionEvent) (s : Slot) : Option OpenPosition :=
  (es.filter fun e => e.slot = s).getLast?.bind PositionEvent.position?

/-- The slots in which a position stands after some events. -/
def openSlots (es : List PositionEvent) : Finset Slot :=
  (es.map PositionEvent.slot).toFinset.filter fun s => (standing es s).isSome

/-- The last event in a slot decides what stands there. -/
theorem standing_concat
    (es : List PositionEvent) (e : PositionEvent) (s : Slot) :
  standing (es ++ [e]) s = if e.slot = s then e.position? else standing es s
  := by
  unfold standing
  split
  case isTrue h => simp [h]
  case isFalse h => simp [h]

theorem exists_mem_of_standing
    {es : List PositionEvent} {s : Slot} {p : OpenPosition} (h : standing es s = some p) :
  p.slot = s ∧ ∃ e ∈ es, e.slot = s
  := by
  obtain ⟨e, he, hp⟩ := Option.bind_eq_some_iff.mp h
  obtain ⟨hmem, hs⟩ := List.mem_filter.mp (List.mem_of_getLast? he)
  have hs : e.slot = s := by simpa using hs
  use (PositionEvent.slot_of_position? hp).trans hs, e, hmem

theorem mem_openSlots
    {es : List PositionEvent} {s : Slot} :
  s ∈ openSlots es ↔ ∃ p, standing es s = some p
  := by
  simp only [openSlots, Finset.mem_filter, List.mem_toFinset, List.mem_map,
    Option.isSome_iff_exists, and_iff_right_iff_imp]
  rintro ⟨p, hp⟩
  obtain ⟨e, he, hs⟩ := (exists_mem_of_standing hp).2
  use e, he

namespace Registry

variable {σ : Type}

/-- The registry after an event. -/
def follow (r : Registry σ) : PositionEvent → Registry σ
  | .opened p => r.openPosition p
  | .closed s => r.closePosition s.strategy s.exchange s.symbol

/-- The registry after some events, in order. -/
def followAll (r : Registry σ) (es : List PositionEvent) : Registry σ :=
  es.foldl follow r

/-! ### Positions under keys -/

/-- Every position is kept under its own key, and no two under one key. -/
structure Keyed (r : Registry σ) : Prop where
  nodup : (r.positions.map Prod.fst).Nodup
  key : ∀ x ∈ r.positions, x.1 = x.2.key

theorem mem_putPosition
    {k : String} {p : OpenPosition} {ps : List (String × OpenPosition)}
    (hps : (ps.map Prod.fst).Nodup) {x : String × OpenPosition} :
  x ∈ putPosition k p ps ↔ x = (k, p) ∨ x ∈ ps ∧ x.1 ≠ k
  := by
  induction ps with
  | nil => simp [putPosition]
  | cons y ps ih =>
    obtain ⟨hy, hps⟩ := List.nodup_cons.mp hps
    have hne : ∀ z ∈ ps, z.1 ≠ y.1 := by
      intro z hz h
      exact hy (h ▸ List.mem_map_of_mem hz)
    rw [putPosition]
    split
    case isTrue hk =>
      simp only [List.mem_cons]
      constructor
      · rintro (rfl | hx)
        · left
          rfl
        · right
          use .inr hx, hk ▸ hne x hx
      · rintro (rfl | ⟨rfl | hx, hne'⟩)
        · left
          rfl
        · exact absurd hk hne'
        · right
          exact hx
    case isFalse hk =>
      simp only [List.mem_cons, ih hps]
      constructor
      · rintro (rfl | rfl | ⟨hx, hne'⟩)
        · right
          use .inl rfl, hk
        · left
          rfl
        · right
          use .inr hx, hne'
      · tauto

theorem fst_putPosition
    (k : String) (p : OpenPosition) (ps : List (String × OpenPosition)) :
  (putPosition k p ps).map Prod.fst
    = if k ∈ ps.map Prod.fst then ps.map Prod.fst else ps.map Prod.fst ++ [k]
  := by
  induction ps with
  | nil => rfl
  | cons y ps ih =>
    rw [putPosition]
    split
    case isTrue hk => simp [hk]
    case isFalse hk =>
      simp only [List.map_cons, ih, List.mem_cons, Ne.symm hk, false_or]
      split <;> simp

/-- After an event the positions of other keys are those from before; under the key of the
event there is the position that it opens, if it does. -/
theorem mem_positions_follow
    {r : Registry σ} (hr : r.Keyed) {e : PositionEvent} {x : String × OpenPosition} :
  x ∈ (r.follow e).positions
    ↔ (e.position? = some x.2 ∧ x.1 = e.slot.key) ∨ x ∈ r.positions ∧ x.1 ≠ e.slot.key
  := by
  cases e with
  | opened p =>
    simp only [follow, openPosition, mem_putPosition hr.nodup, PositionEvent.position?,
      Option.some.injEq]
    apply or_congr_left
    rw [Prod.ext_iff, and_comm, eq_comm (a := x.2)]
    rfl
  | closed s => simp [follow, closePosition, PositionEvent.position?, PositionEvent.slot, Slot.key]

theorem Keyed.follow
    {r : Registry σ} (hr : r.Keyed) (e : PositionEvent) :
  (r.follow e).Keyed
  := by
  constructor
  · cases e with
    | opened p =>
      simp only [Registry.follow, openPosition, fst_putPosition]
      split
      case isTrue => exact hr.nodup
      case isFalse h => simpa [List.concat_eq_append] using hr.nodup.concat h
    | closed s => exact hr.nodup.sublist (List.filter_sublist.map _)
  · intro x hx
    obtain ⟨hp, hk⟩ | ⟨hx, -⟩ := (mem_positions_follow hr).mp hx
    · rw [hk, ← PositionEvent.slot_of_position? hp]
      rfl
    · exact hr.key x hx

theorem Keyed.mem_openPositions
    {r : Registry σ} (hr : r.Keyed) {p : OpenPosition} :
  p ∈ r.openPositions ↔ (p.key, p) ∈ r.positions
  := by
  constructor
  · intro hp
    obtain ⟨⟨k, q⟩, hx, rfl⟩ := List.mem_map.mp hp
    rwa [← hr.key _ hx]
  · intro hp
    exact List.mem_map_of_mem hp

/-- After an event the positions of slots with other keys are those from before. -/
theorem Keyed.mem_openPositions_follow
    {r : Registry σ} (hr : r.Keyed) {e : PositionEvent} {p : OpenPosition} :
  p ∈ (r.follow e).openPositions
    ↔ e.position? = some p ∨ p ∈ r.openPositions ∧ p.slot.key ≠ e.slot.key
  := by
  rw [(hr.follow e).mem_openPositions, mem_positions_follow hr, hr.mem_openPositions]
  apply or_congr_left
  rw [and_iff_left_iff_imp]
  intro hp
  rw [← PositionEvent.slot_of_position? hp]
  rfl

/-! ### What an evaluation sees -/

/-- An evaluation inspects a signal among the positions that are tracked. -/
theorem positions_of_inspectAt
    {r : Registry σ} {frame : Frame} {signal : Signal} {price timestamp : Value}
    {i : Inspection} (hi : r.inspectAt frame signal price timestamp = .ok i) :
  i.openCount = r.openCount ∧ i.openPositions = r.openPositions
  := by
  obtain ⟨p, -, hinspect⟩ := exists_inspect_of_inspectAt hi
  obtain ⟨-, -, -, -, -, -, -, hcount, -, hpositions⟩ :=
    Inspection.read_eq_done.mp (Reading.mapError_finish_eq_ok.mp hinspect)
  have hcount : (r.openCount : Int) = i.openCount := by
    simpa [Fields.optional, Value.lookup, Value.readInteger] using hcount
  use hcount.symm, hpositions.symm

/-! ### Tracking -/

/-- After some events in slots of a class, a registry tracks what stands open. -/
structure Tracks (slots : Set Slot) (r : Registry σ) (es : List PositionEvent) : Prop where
  /-- The positions are those that stand in their slots. -/
  mem_iff : ∀ p, p ∈ r.openPositions ↔ standing es p.slot = some p
  /-- There is one position for each slot. -/
  nodup : (r.openPositions.map OpenPosition.slot).Nodup
  /-- Their number is the number of slots in which a position stands. -/
  count : r.openCount = (openSlots es).card
  /-- A further event changes nothing in the other slots. -/
  others : ∀ e : PositionEvent, e.slot ∈ slots → ∀ p : OpenPosition, p.slot ≠ e.slot →
    (p ∈ (r.follow e).openPositions ↔ p ∈ r.openPositions)
  /-- An evaluation sees these positions, and the position gate their true number. -/
  seen : ∀ frame signal price timestamp i,
    r.inspectAt frame signal price timestamp = .ok i →
    i.openPositions = r.openPositions
      ∧ ∀ limit, (Gate.maxPositions limit).judge i = Gate.judgeCount limit (openSlots es).card

/-- The registry of some risks that tracks no position yet. -/
def ofRisks (risks : List (Risk σ)) : Registry σ :=
  ⟨risks, []⟩

theorem followAll_concat
    (r : Registry σ) (es : List PositionEvent) (e : PositionEvent) :
  r.followAll (es ++ [e]) = (r.followAll es).follow e
  := by
  simp [followAll]

variable (risks : List (Risk σ))

theorem keyed_followAll
    (es : List PositionEvent) :
  ((ofRisks risks).followAll es).Keyed
  := by
  induction es using List.reverseRecOn with
  | nil => constructor <;> simp [followAll, ofRisks]
  | append_singleton es e ih =>
    rw [followAll_concat]
    exact ih.follow e

/-- Whatever happens, no two positions are tracked in one slot. -/
theorem nodup_slots_followAll
    (es : List PositionEvent) :
  (((ofRisks risks).followAll es).openPositions.map OpenPosition.slot).Nodup
  := by
  have hkeyed := keyed_followAll risks es
  have hkeys : (((ofRisks risks).followAll es).openPositions.map OpenPosition.slot).map Slot.key
      = ((ofRisks risks).followAll es).positions.map Prod.fst := by
    rw [openPositions, List.map_map, List.map_map]
    apply List.map_congr_left
    intro x hx
    exact (hkeyed.key x hx).symm
  apply List.Nodup.of_map Slot.key
  rw [hkeys]
  exact hkeyed.nodup

variable {slots : Set Slot} (hslots : slots.InjOn Slot.key)
include hslots

/-- Where no two slots in use have one key, what is tracked is what stands open. -/
theorem mem_openPositions_followAll
    {es : List PositionEvent} (hes : ∀ e ∈ es, e.slot ∈ slots) {p : OpenPosition} :
  p ∈ ((ofRisks risks).followAll es).openPositions ↔ standing es p.slot = some p
  := by
  induction es using List.reverseRecOn with
  | nil => simp [followAll, ofRisks, openPositions, standing]
  | append_singleton es e ih =>
    have hes' : ∀ d ∈ es, d.slot ∈ slots := fun d hd => hes d (List.mem_append_left _ hd)
    have he : e.slot ∈ slots := hes e (by simp)
    rw [followAll_concat, (keyed_followAll risks es).mem_openPositions_follow, ih hes',
      standing_concat]
    split
    case isTrue hs =>
      rw [hs]
      simp
    case isFalse hs =>
      constructor
      · rintro (hp | ⟨hp, -⟩)
        · exact absurd (PositionEvent.slot_of_position? hp).symm hs
        · exact hp
      · intro hp
        right
        use hp
        intro hk
        obtain ⟨d, hd, hds⟩ := (exists_mem_of_standing hp).2
        exact hs (hslots (hds ▸ hes' d hd) he hk).symm

theorem openCount_followAll
    {es : List PositionEvent} (hes : ∀ e ∈ es, e.slot ∈ slots) :
  ((ofRisks risks).followAll es).openCount = (openSlots es).card
  := by
  have hslot : openSlots es
      = (((ofRisks risks).followAll es).openPositions.map OpenPosition.slot).toFinset := by
    ext s
    rw [mem_openSlots, List.mem_toFinset, List.mem_map]
    constructor
    · rintro ⟨p, hp⟩
      obtain ⟨rfl, -⟩ := exists_mem_of_standing hp
      use p, (mem_openPositions_followAll risks hslots hes).mpr hp
    · rintro ⟨p, hp, rfl⟩
      use p, (mem_openPositions_followAll risks hslots hes).mp hp
  rw [hslot, List.toFinset_card_of_nodup (nodup_slots_followAll risks es)]
  simp [openCount, openPositions]

/-- Where no two slots in use have one key, the registry tracks what stands open. -/
theorem tracks_followAll
    {es : List PositionEvent} (hes : ∀ e ∈ es, e.slot ∈ slots) :
  Tracks slots ((ofRisks risks).followAll es) es
  := by
  have hcount := openCount_followAll risks hslots hes
  constructor
  · intro p
    exact mem_openPositions_followAll risks hslots hes
  · exact nodup_slots_followAll risks es
  · exact hcount
  · intro e he p hp
    rw [(keyed_followAll risks es).mem_openPositions_follow]
    constructor
    · rintro (h | ⟨h, -⟩)
      · exact absurd (PositionEvent.slot_of_position? h) hp
      · exact h
    · intro h
      right
      use h
      intro hk
      have hstanding := (mem_openPositions_followAll risks hslots hes).mp h
      obtain ⟨d, hd, hds⟩ := (exists_mem_of_standing hstanding).2
      exact hp (hslots (hds ▸ hes d hd) he hk)
  · intro frame signal price timestamp i hi
    obtain ⟨hi, hpositions⟩ := positions_of_inspectAt hi
    use hpositions
    intro limit
    simp only [Gate.judge, hi, hcount]

omit hslots

/-! ### Slots with distinct keys -/

/-- Some position in a slot. -/
def someIn (s : Slot) : OpenPosition :=
  { (default : OpenPosition) with
    strategy := s.strategy, exchange := s.exchange, symbol := s.symbol }

/-- Of two slots with one key, a registry loses the position that was opened first. -/
theorem not_tracks_of_key_eq
    {s t : Slot} (hkey : s.key = t.key) (hne : s ≠ t) :
  ¬ Tracks slots ((ofRisks risks).followAll [.opened (someIn s), .opened (someIn t)])
      [.opened (someIn s), .opened (someIn t)]
  := by
  intro htracks
  have hslot : ∀ u, (someIn u).slot = u := fun _ => rfl
  have hstanding : standing [.opened (someIn s), .opened (someIn t)] s = some (someIn s) := by
    simp [standing, PositionEvent.slot, PositionEvent.position?, hslot, hne.symm]
  have hmem : someIn s ∈ (((ofRisks risks).followAll [.opened (someIn s)]).follow
      (.opened (someIn t))).openPositions := (htracks.mem_iff (someIn s)).mpr hstanding
  obtain hp | ⟨-, hk⟩ :=
    (keyed_followAll risks [.opened (someIn s)]).mem_openPositions_follow.mp hmem
  · exact hne (PositionEvent.slot_of_position? hp)
  · exact hk hkey

end Registry

/-- Slots whose strategies and exchanges are named without the separator have distinct keys. -/
theorem Slot.injOn_key :
  {s : Slot | Text.Lacks '_' s.strategy ∧ Text.Lacks '_' s.exchange}.InjOn Slot.key
  := by
  rintro ⟨strategy, exchange, symbol⟩ ⟨hs, he⟩ ⟨strategy', exchange', symbol'⟩ ⟨hs', he'⟩ hkey
  have hsplit : ∀ a b c, OpenPosition.keyOf a b c
      = a ++ String.singleton '_' ++ (b ++ String.singleton '_' ++ c) := by
    intro a b c
    simp only [OpenPosition.keyOf, String.append_assoc]
    rfl
  simp only [key, hsplit] at hkey
  obtain ⟨rfl, hrest⟩ := (Text.separated_inj hs hs').mp hkey
  obtain ⟨rfl, rfl⟩ := (Text.separated_inj he he').mp hrest
  rfl

namespace Registry

/-- A registry tracks what stands open in the slots of a class, whatever is opened and closed
there, if and only if no two slots of the class have one key.  The slots whose strategies and
exchanges are named without the separator are such a class. -/
theorem positions_are_tracked_iff
    {σ : Type} (risks : List (Risk σ)) :
  (∀ slots : Set Slot,
    (∀ es, (∀ e ∈ es, e.slot ∈ slots) → Tracks slots ((ofRisks risks).followAll es) es)
      ↔ slots.InjOn Slot.key)
  ∧ {s : Slot | Text.Lacks '_' s.strategy ∧ Text.Lacks '_' s.exchange}.InjOn Slot.key
  := by
  constructor
  · intro slots
    constructor
    · intro htracks s hs t ht hkey
      by_contra hne
      apply not_tracks_of_key_eq risks hkey hne
      apply htracks
      intro e he
      obtain rfl | rfl : e = .opened (someIn s) ∨ e = .opened (someIn t) := by simpa using he
      · exact hs
      · exact ht
    · intro hslots es hes
      exact tracks_followAll risks hslots hes
  · exact Slot.injOn_key

/-- Two positions are opened, and one of them is opened anew. -/
def reopened : List PositionEvent :=
  [.opened (someIn ⟨"ema", "binance", "BTC_USDT"⟩), .opened (someIn ⟨"rsi", "binance", "BTC"⟩),
    .closed ⟨"ema", "binance", "BTC_USDT"⟩, .opened (someIn ⟨"ema", "binance", "BTC_USDT"⟩)]

theorem positions_are_tracked_reopened :
  (∀ e ∈ reopened, Text.Lacks '_' e.slot.strategy ∧ Text.Lacks '_' e.slot.exchange)
    ∧ Tracks {s | Text.Lacks '_' s.strategy ∧ Text.Lacks '_' s.exchange}
        ((ofRisks ([] : List (Risk Unit))).followAll reopened) reopened
  := by
  have hplain : ∀ e ∈ reopened,
      Text.Lacks '_' e.slot.strategy ∧ Text.Lacks '_' e.slot.exchange := by
    simp [reopened, someIn, PositionEvent.slot, OpenPosition.slot, Text.Lacks]
  obtain ⟨htracks, hinj⟩ := positions_are_tracked_iff ([] : List (Risk Unit))
  use hplain
  apply (htracks _).mpr hinj reopened hplain

/-- Of two strategies on two exchanges whose names join to one key, only the position that was
opened last is tracked. -/
theorem first_position_is_lost :
  let p := someIn ⟨"ema_cross", "binance", "BTC"⟩
  let q := someIn ⟨"ema", "cross_binance", "BTC"⟩
  let r := (ofRisks ([] : List (Risk Unit))).followAll [.opened p, .opened q]
  p.slot ≠ q.slot ∧ r.openPositions = [q] ∧ r.openCount = 1
    ∧ openSlots [.opened p, .opened q] = {p.slot, q.slot}
    ∧ ¬ Tracks Set.univ r [.opened p, .opened q]
  := by
  refine ⟨by decide, rfl, rfl, by decide, ?_⟩
  apply not_tracks_of_key_eq
  · rfl
  · decide

end Registry

end TradeGate
