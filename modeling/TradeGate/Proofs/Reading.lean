import TradeGate.Reading

/-!
# Complete readings

A reading of several fields is done exactly if the readings of all its fields are done.  What
a reader grants of each value that it accepts holds of the fields that are read with it.
-/

namespace TradeGate

namespace Reading

theorem zipWith_eq_done
    {α β γ : Type} {f : α → β → γ} {x : Reading α} {y : Reading β} {c : γ} :
  zipWith f x y = .done c ↔ ∃ a b, x = .done a ∧ y = .done b ∧ f a b = c
  := by
  cases x <;> cases y <;> simp [zipWith]

@[simp]
theorem seq_eq_done
    {α β : Type} {f : Reading (α → β)} {x : Reading α} {b : β} :
  f <*> x = .done b ↔ ∃ g a, f = .done g ∧ x = .done a ∧ g a = b
  := zipWith_eq_done

@[simp]
theorem map_eq_done
    {α β : Type} {f : α → β} {x : Reading α} {b : β} :
  f <$> x = .done b ↔ ∃ a, x = .done a ∧ f a = b
  := by
  cases x with
  | done a => simp [Functor.map, map]
  | refused i is => simp [Functor.map, map]

@[simp]
theorem below_eq_done
    {α : Type} {name : String} {x : Reading α} {a : α} :
  x.below name = .done a ↔ x = .done a
  := by
  cases x <;> simp [below]

/-- A record is accepted exactly if its reading is done. -/
theorem mapError_finish_eq_ok
    {α ε : Type} {subject : Subject} {x : Reading α} {f : Refusal → ε} {a : α} :
  (x.finish subject).mapError f = .ok a ↔ x = .done a
  := by
  cases x with
  | done b =>
    change (Except.ok b : Except ε α) = .ok a ↔ _
    simp
  | refused i is =>
    change (Except.error (f ⟨subject, i :: is⟩) : Except ε α) = .ok a ↔ _
    simp

end Reading

/-! ### Fields -/

namespace Fields

variable {α : Type} {P : α → Prop} {read : Value → Reading α} {fields : Fields} {name : String}
  {a : α}

/-- A required field has what its reader grants. -/
theorem of_required
    (hread : ∀ v a, read v = .done a → P a) (h : fields.required name read = .done a) :
  P a
  := by
  have h := Reading.below_eq_done.mp h
  split at h
  · exact hread _ a h
  · cases h

/-- So has an optional field, if its default has it too. -/
theorem of_optional
    {b : α} (hread : ∀ v a, read v = .done a → P a) (hb : P b)
    (h : fields.optional name b read = .done a) :
  P a
  := by
  unfold optional at h
  split at h
  · exact hread _ a (Reading.below_eq_done.mp h)
  · cases h
    exact hb

end Fields

namespace Value

theorem finiteDecimal_eq_done
    {c d : Decimal} :
  finiteDecimal c = .done d ↔ d.isFinite = true ∧ c = d
  := by
  unfold finiteDecimal
  split
  case isTrue hc =>
    constructor
    · rintro ⟨rfl⟩
      exact ⟨hc, rfl⟩
    · rintro ⟨-, rfl⟩
      rfl
  case isFalse hc =>
    constructor
    · rintro ⟨⟩
    · rintro ⟨hd, rfl⟩
      exact absurd hd hc

/-- A decimal that was read is finite. -/
theorem isFinite_of_readDecimal
    {v : Value} {d : Decimal} (h : readDecimal v = .done d) :
  d.isFinite = true
  := by
  unfold readDecimal at h
  split at h
  case h_1 => exact (finiteDecimal_eq_done.mp h).1
  case h_2 => exact (finiteDecimal_eq_done.mp h).1
  case h_3 =>
    split at h
    · exact (finiteDecimal_eq_done.mp h).1
    · cases h
  case h_4 =>
    split at h
    · exact (finiteDecimal_eq_done.mp h).1
    · cases h
  case h_5 => cases h
  case h_6 => cases h

/-- A nullable value is nothing or has what its reader grants. -/
theorem of_readNullable
    {α : Type} {P : α → Prop} {read : Value → Reading α} (hread : ∀ v a, read v = .done a → P a)
    {v : Value} {o : Option α} (h : readNullable read v = .done o) :
  ∀ a ∈ o, P a
  := by
  unfold readNullable at h
  split at h
  · cases h
    rintro a ⟨⟩
  · obtain ⟨b, hb, rfl⟩ := Reading.map_eq_done.mp h
    rintro a ⟨rfl⟩
    exact hread _ b hb

end Value

end TradeGate
