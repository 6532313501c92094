import TradeGate.Environment.Assignments
import Mathlib.Data.List.Basic

/-!
# Environments that grow

Giving values to missing names adds variables at the end and changes none that is there.  If
every value can be given, the variables added are those of the names that were missing, and a
name has its old value afterwards, or else the value it was given.
-/

namespace TradeGate

namespace Environment

/-! ### Looking up -/

theorem get?_eq_none_iff
    {e : Environment} {name : String} :
  e.get? name = none ↔ name ∉ e.bindings.map Prod.fst
  := by
  simp only [get?, Option.map_eq_none_iff, List.find?_eq_none, beq_iff_eq, List.mem_map, not_exists,
    not_and]

theorem get?_isSome_of_mem
    {e : Environment} {v : String × String} (hv : v ∈ e.bindings) :
  (e.get? v.1).isSome
  := by
  rw [Option.isSome_iff_ne_none, ne_eq, get?_eq_none_iff, not_not]
  exact List.mem_map_of_mem hv

theorem get?_append
    (vs ws : List (String × String)) (name : String) :
  (Environment.mk (vs ++ ws)).get? name
    = ((Environment.mk vs).get? name).or ((Environment.mk ws).get? name)
  := by
  simp only [get?, List.find?_append, Option.map_or]

/-- The value of the variable that was added last among those that bear a name up to the case
of letters. -/
def last? (e : Environment) (name : String) : Option String :=
  (e.bindings.reverse.find? fun v => folded v.1 == folded name).map Prod.snd

theorem last?_congr
    {e : Environment} {name name' : String} (h : folded name = folded name') :
  e.last? name = e.last? name'
  := by
  rw [last?, last?, h]

theorem last?_append
    (vs ws : List (String × String)) (name : String) :
  (Environment.mk (vs ++ ws)).last? name
    = ((Environment.mk ws).last? name).or ((Environment.mk vs).last? name)
  := by
  simp only [last?, List.reverse_append, List.find?_append, Option.map_or]

theorem last?_eq_none_iff
    {e : Environment} {name : String} :
  e.last? name = none ↔ ∀ v ∈ e.bindings, folded v.1 ≠ folded name
  := by
  simp [last?, List.find?_eq_none]

theorem exists_mem_of_last?
    {e : Environment} {name value : String} (h : e.last? name = some value) :
  ∃ v ∈ e.bindings, folded v.1 = folded name ∧ v.2 = value
  := by
  obtain ⟨v, hv, rfl⟩ := Option.map_eq_some_iff.mp h
  use v, List.mem_reverse.mp (List.mem_of_find?_eq_some hv)
  exact ⟨by simpa using List.find?_some hv, rfl⟩

/-! ### Growing -/

/-- An environment becomes another one by variables that are added at the end under missing
names. -/
structure Grows (e : Environment) (added : List (String × String)) (f : Environment) : Prop where
  bindings : f.bindings = e.bindings ++ added
  missing : ∀ v ∈ added, e.get? v.1 = none

variable {e f g : Environment} {vs ws : List (String × String)}

theorem Grows.refl
    (e : Environment) :
  e.Grows [] e
  := ⟨by simp, by simp⟩

theorem Grows.get?
    (h : e.Grows vs f) (name : String) :
  f.get? name = (e.get? name).or ((Environment.mk vs).get? name)
  := by
  rw [← get?_append, ← h.bindings]

theorem Grows.last?
    (h : e.Grows vs f) (name : String) :
  f.last? name = ((Environment.mk vs).last? name).or (e.last? name)
  := by
  rw [← last?_append, ← h.bindings]

/-- A name that is missing afterwards was missing before. -/
theorem Grows.get?_eq_none
    (h : e.Grows vs f) {name : String} (hf : f.get? name = none) :
  e.get? name = none
  := by
  rw [h.get?, Option.or_eq_none_iff] at hf
  exact hf.1

theorem Grows.trans
    (h : e.Grows vs f) (h' : f.Grows ws g) :
  e.Grows (vs ++ ws) g
  where
  bindings := by rw [h'.bindings, h.bindings, List.append_assoc]
  missing := by
    intro v hv
    obtain hv | hv := List.mem_append.mp hv
    · exact h.missing v hv
    · exact h.get?_eq_none (h'.missing v hv)

/-! ### Giving values -/

theorem put_eq_append
    {name value : String} (h : name ∉ vs.map Prod.fst) :
  put name value vs = vs ++ [(name, value)]
  := by
  induction vs with
  | nil => rfl
  | cons v vs ih =>
    obtain ⟨hv, hvs⟩ : name ≠ v.1 ∧ name ∉ vs.map Prod.fst := by simpa using h
    rw [put, if_neg hv.symm, ih hvs, List.cons_append]

theorem grows_set
    {name : String} (value : String) (h : e.get? name = none) :
  e.Grows [(name, value)] (e.set name value)
  where
  bindings := put_eq_append (get?_eq_none_iff.mp h)
  missing := by simpa using h

/-- Values are given to names that were missing, whether or not all values can be given. -/
theorem exists_grows_setMissing
    (e : Environment) (vs : List (String × String)) :
  ∃ added, e.Grows added (e.setMissing vs).2 ∧ added ⊆ vs
  := by
  induction vs generalizing e with
  | nil => exact ⟨[], Grows.refl e, List.nil_subset _⟩
  | cons v vs ih =>
    rw [setMissing]
    split
    case isTrue =>
      obtain ⟨added, hgrows, hsubset⟩ := ih e
      exact ⟨added, hgrows, List.subset_cons_of_subset v hsubset⟩
    case isFalse hv =>
      have hv : e.get? v.1 = none := by simpa using hv
      split
      · obtain ⟨added, hgrows, hsubset⟩ := ih (e.set v.1 v.2)
        use v :: added, (grows_set v.2 hv).trans hgrows
        exact List.cons_subset_cons v hsubset
      · exact ⟨[], Grows.refl e, List.nil_subset _⟩

/-- All values can be given exactly if each can that belongs to a missing name. -/
theorem setMissing_eq_ok_iff
    (hvs : (vs.map Prod.fst).Nodup) :
  (e.setMissing vs).1 = .ok () ↔ ∀ v ∈ vs, e.get? v.1 = none → check v.1 v.2 = .ok ()
  := by
  induction vs generalizing e with
  | nil => simp [setMissing]
  | cons v vs ih =>
    obtain ⟨hv, hvs⟩ := List.nodup_cons.mp hvs
    have hset : ∀ w ∈ vs, (e.set v.1 v.2).get? w.1 = e.get? w.1 := by
      intro w hw
      apply get?_set_of_ne
      rintro h
      exact hv (h ▸ List.mem_map_of_mem hw)
    rw [setMissing, List.forall_mem_cons]
    split
    case isTrue hsome =>
      have hsome : e.get? v.1 ≠ none := Option.isSome_iff_ne_none.mp hsome
      rw [ih hvs, iff_and_self]
      intro _ hnone
      exact absurd hnone hsome
    case isFalse hnone =>
      have hnone : e.get? v.1 = none := by simpa using hnone
      split
      case h_1 hcheck =>
        rw [ih hvs]
        simp only [hnone, hcheck, forall_const, true_and]
        apply forall₂_congr
        intro w hw
        rw [hset w hw]
      case h_2 fault hcheck => simp [hnone, hcheck]

/-- If all values can be given, they are given to the names that were missing. -/
theorem grows_setMissing
    (hvs : (vs.map Prod.fst).Nodup) (h : (e.setMissing vs).1 = .ok ()) :
  e.Grows (vs.filter fun v => (e.get? v.1).isNone) (e.setMissing vs).2
  := by
  constructor
  · induction vs generalizing e with
    | nil => simp [setMissing]
    | cons v vs ih =>
      obtain ⟨hv, hvs⟩ := List.nodup_cons.mp hvs
      rw [setMissing] at h ⊢
      split at h
      case isTrue hsome =>
        have hfilter : ¬ (e.get? v.1).isNone = true := by
          rw [Option.isNone_iff_eq_none]
          exact Option.isSome_iff_ne_none.mp hsome
        rw [if_pos hsome, ih hvs h, List.filter_cons, if_neg hfilter]
      case isFalse hnone =>
        have hv' : e.get? v.1 = none := by simpa using hnone
        rw [if_neg hnone]
        split at h
        case h_1 hcheck =>
          have hfilter : (vs.filter fun w => ((e.set v.1 v.2).get? w.1).isNone)
              = vs.filter fun w => (e.get? w.1).isNone := by
            apply List.filter_congr
            intro w hw
            rw [get?_set_of_ne]
            rintro heq
            exact hv (heq ▸ List.mem_map_of_mem hw)
          rw [ih hvs h, (grows_set v.2 hv').bindings, hfilter,
            List.filter_cons_of_pos (by simpa using hv'), List.append_assoc]
          rfl
        case h_2 => cases h
  · intro v hv
    simpa using (List.mem_filter.mp hv).2

/-- Afterwards a name has its old value, or else the one that was given to it. -/
theorem get?_setMissing_eq_or
    (hvs : (vs.map Prod.fst).Nodup) (h : (e.setMissing vs).1 = .ok ()) (name : String) :
  (e.setMissing vs).2.get? name = (e.get? name).or ((Environment.mk vs).get? name)
  := by
  rw [(grows_setMissing hvs h).get?]
  cases hname : e.get? name with
  | some value => rfl
  | none =>
    rw [Option.none_or, Option.none_or]
    change Option.map Prod.snd (List.find? _ (List.filter _ vs))
      = Option.map Prod.snd (List.find? _ vs)
    rw [List.find?_filter]
    congr 2
    funext v
    by_cases hv : v.1 = name
    · simp [hv, hname]
    · simp [hv]

end Environment

end TradeGate
