import TradeGate.Proofs.Environment.Growth
import Mathlib.Data.List.Induction
import Mathlib.Data.List.Nodup

/-!
# References to variables

Values in a file of assignments refer to other variables.  A file gives its names the same values
in two environments that agree on the variables it refers to, whatever else stands in them.  So a
file that is loaded after other variables were added adds what it would have added before, except
under the names of these.
-/

namespace TradeGate

namespace Assignment

/-- The names that at most `fuel` characters of a text refer to. -/
def references : Nat → List Char → List String
  | _, [] => []
  | 0, _ => []
  | fuel + 1, c :: cs =>
    match c, cs with
    | '$', '\x7b' :: rest =>
      match reference? rest with
      | some ((name, _), after) => name :: references fuel after
      | none => references fuel cs
    | _, _ => references fuel cs

/-- A text is the same after its references are resolved in two ways that agree on them. -/
theorem expand_congr
    {lookup lookup' : String → Option String → String} {fuel : Nat} {cs : List Char}
    (h : ∀ name ∈ references fuel cs, lookup name = lookup' name) :
  expand lookup fuel cs = expand lookup' fuel cs
  := by
  fun_induction references fuel cs with
  | case1 fuel => simp [expand]
  | case2 cs hcs => cases cs <;> simp [expand]
  | case3 fuel rest name default after hreference ih =>
    obtain ⟨hname, hafter⟩ := List.forall_mem_cons.mp h
    simp only [expand, hreference, hname, ih hafter]
  | case4 fuel rest hreference ih => simp only [expand, hreference, ih h]
  | case5 fuel c cs hc ih =>
    have hexpand : ∀ f, expand f (fuel + 1) (c :: cs) = c :: expand f fuel cs := by
      intro f
      rw [expand]
      exact hc
    rw [hexpand, hexpand, ih h]

/-- The names that the values of assignments refer to. -/
def referenced (as : List Assignment) : List String :=
  as.flatMap fun a => a.value.elim [] fun s => references s.length s.toList

theorem referenced_append
    (as bs : List Assignment) :
  referenced (as ++ bs) = referenced as ++ referenced bs
  := List.flatMap_append

theorem referenced_subset
    {as bs : List Assignment} (h : as ⊆ bs) :
  referenced as ⊆ referenced bs
  := by
  intro name hname
  obtain ⟨a, ha, hname⟩ := List.mem_flatMap.mp hname
  exact List.mem_flatMap.mpr ⟨a, h ha, hname⟩

/-- Environments that agree on the referenced variables resolve assignments alike. -/
theorem resolve_congr
    {e f : Environment} {as : List Assignment}
    (h : ∀ name ∈ referenced as, e.get? name = f.get? name) (environmentFirst : Bool) :
  resolve e environmentFirst as = resolve f environmentFirst as
  := by
  apply List.foldl_ext
  intro seen a ha
  cases hvalue : a.value with
  | none => rfl
  | some s =>
    rw [Option.map_some, Option.map_some, expand_congr]
    intro name hname
    have hname : name ∈ referenced as := by
      apply List.mem_flatMap.mpr
      use a, ha
      rwa [hvalue]
    funext default
    rw [referent, referent, h name hname]

/-! ### One value for each name -/

theorem fst_putValue
    (name : String) (value : Option String) (vs : Values) :
  (putValue name value vs).map Prod.fst
    = if name ∈ vs.map Prod.fst then vs.map Prod.fst else vs.map Prod.fst ++ [name]
  := by
  induction vs with
  | nil => rfl
  | cons v vs ih =>
    rw [putValue]
    split
    case isTrue hname => simp [hname]
    case isFalse hname =>
      simp only [List.map_cons, ih, List.mem_cons, Ne.symm hname, false_or]
      split <;> simp

/-- The names with values are the assigned ones, each once. -/
theorem fst_resolve
    (e : Environment) (environmentFirst : Bool) (as : List Assignment) :
  ((resolve e environmentFirst as).map Prod.fst).Nodup
    ∧ (resolve e environmentFirst as).map Prod.fst ⊆ as.map Assignment.name
  := by
  induction as using List.reverseRecOn with
  | nil => simp [resolve]
  | append_singleton as a ih =>
    obtain ⟨hnodup, hsubset⟩ := ih
    rw [resolve, List.foldl_append]
    change ((putValue a.name _ (resolve e environmentFirst as)).map Prod.fst).Nodup
      ∧ (putValue a.name _ (resolve e environmentFirst as)).map Prod.fst ⊆ _
    rw [fst_putValue, List.map_append]
    split
    case isTrue => exact ⟨hnodup, List.subset_append_of_subset_left _ hsubset⟩
    case isFalse hname =>
      constructor
      · simpa using hnodup.concat hname
      · exact List.append_subset.mpr ⟨List.subset_append_of_subset_left _ hsubset, by simp⟩

end Assignment

namespace Environment

open Assignment

/-- The values that assignments have for their names in an environment. -/
def offered (e : Environment) (as : List Assignment) : List (String × String) :=
  (resolve e true as).filterMap fun v => v.2.map (v.1, ·)

theorem load_eq_setMissing
    (e : Environment) (as : List Assignment) :
  e.load as = e.setMissing (e.offered as)
  := rfl

theorem offered_congr
    {e f : Environment} {as : List Assignment}
    (h : ∀ name ∈ referenced as, e.get? name = f.get? name) :
  e.offered as = f.offered as
  := by
  rw [offered, offered, resolve_congr h]

theorem fst_offered_sublist
    (e : Environment) (as : List Assignment) :
  ((e.offered as).map Prod.fst).Sublist ((resolve e true as).map Prod.fst)
  := by
  rw [offered]
  induction resolve e true as with
  | nil => simp
  | cons v vs ih =>
    obtain ⟨name, _ | value⟩ := v
    · exact ih.cons name
    · exact ih.cons_cons name

theorem nodup_offered
    (e : Environment) (as : List Assignment) :
  ((e.offered as).map Prod.fst).Nodup
  := (fst_resolve e true as).1.sublist (fst_offered_sublist e as)

/-- Values are for assigned names. -/
theorem exists_mem_of_mem_offered
    {e : Environment} {as : List Assignment} {v : String × String} (hv : v ∈ e.offered as) :
  ∃ a ∈ as, a.name = v.1
  := by
  have hname := (fst_offered_sublist e as).subset (List.mem_map_of_mem hv)
  exact List.mem_map.mp ((fst_resolve e true as).2 hname)

/-! ### Loading after other variables were added -/

variable {e f : Environment} {added : List (String × String)} {as : List Assignment}

theorem load_of_grows
    (h : e.Grows added f) (hrefs : ∀ name ∈ referenced as, (Environment.mk added).get? name = none)
    (hok : (e.load as).1 = .ok ()) :
  f.offered as = e.offered as ∧ (f.load as).1 = .ok ()
  := by
  have hoffered : f.offered as = e.offered as := by
    apply offered_congr
    intro name hname
    rw [h.get?, hrefs name hname, Option.or_none]
  use hoffered
  rw [load_eq_setMissing] at hok ⊢
  rw [hoffered]
  rw [setMissing_eq_ok_iff (nodup_offered e as)] at hok ⊢
  intro v hv hnone
  exact hok v hv (h.get?_eq_none hnone)

/-- Names other than those that were added before have the same values afterwards. -/
theorem get?_load_of_grows
    (h : e.Grows added f) (hrefs : ∀ name ∈ referenced as, (Environment.mk added).get? name = none)
    (hok : (e.load as).1 = .ok ()) {name : String}
    (hname : (Environment.mk added).get? name = none) :
  (f.load as).2.get? name = (e.load as).2.get? name
  := by
  obtain ⟨hoffered, hok'⟩ := load_of_grows h hrefs hok
  rw [load_eq_setMissing] at hok hok' ⊢
  rw [hoffered] at hok' ⊢
  rw [load_eq_setMissing, get?_setMissing_eq_or (nodup_offered e as) hok',
    get?_setMissing_eq_or (nodup_offered e as) hok, h.get?, hname, Option.or_none]

/-- A variable that was added before stands in the way of those that bear its name, up to the
case of letters, unless one of these is spelled in another way. -/
theorem last?_load_of_grows
    (h : e.Grows added f) (hrefs : ∀ name ∈ referenced as, (Environment.mk added).get? name = none)
    (hok : (e.load as).1 = .ok ()) {name : String}
    (hspelling : ∀ v ∈ added, ∀ a ∈ as, folded v.1 = folded name → folded a.name = folded name →
      a.name = v.1) :
  (f.load as).2.last? name
    = ((Environment.mk added).last? name).or ((e.load as).2.last? name)
  := by
  obtain ⟨hoffered, hok'⟩ := load_of_grows h hrefs hok
  rw [load_eq_setMissing] at hok hok' ⊢
  rw [hoffered] at hok' ⊢
  rw [load_eq_setMissing, (grows_setMissing (nodup_offered e as) hok').last?,
    (grows_setMissing (nodup_offered e as) hok).last?, h.last?]
  cases hadded : (Environment.mk added).last? name with
  | none =>
    -- no name was added that counts here, so the missing ones that count are the same
    have hmissing : ∀ v : String × String, folded v.1 = folded name →
        f.get? v.1 = e.get? v.1 := by
      intro v hv
      have hnone : (Environment.mk added).get? v.1 = none := by
        rw [get?_eq_none_iff]
        intro hmem
        obtain ⟨w, hw, hwv⟩ := List.mem_map.mp hmem
        exact last?_eq_none_iff.mp hadded w hw (hwv ▸ hv)
      rw [h.get?, hnone, Option.or_none]
    rw [Option.none_or, Option.none_or]
    congr 1
    simp only [last?, ← List.filter_reverse, List.find?_filter]
    congr 2
    funext v
    by_cases hv : folded v.1 = folded name
    · rw [hmissing v hv]
    · simp [hv]
  | some value =>
    obtain ⟨w, hw, hwname, -⟩ := exists_mem_of_last? hadded
    have hnone : (Environment.mk ((e.offered as).filter fun v => (f.get? v.1).isNone)).last? name
        = none := by
      rw [last?_eq_none_iff]
      intro v hv hvname
      obtain ⟨hv, hmissing⟩ := List.mem_filter.mp hv
      obtain ⟨a, ha, hav⟩ := exists_mem_of_mem_offered hv
      have hvw : v.1 = w.1 := hav ▸ hspelling w hw a ha hwname (hav ▸ hvname)
      have hmem : w ∈ f.bindings := by
        rw [h.bindings]
        exact List.mem_append_right _ hw
      have hsome := get?_isSome_of_mem hmem
      rw [← hvw, Option.isSome_iff_ne_none] at hsome
      exact hsome (by simpa using hmissing)
    rw [hnone, Option.none_or]
    rfl

end Environment

end TradeGate
