import Mathlib.Data.List.Basic

/-!
# Separated names

A name before a separator can be read off the joined text, if it does not contain the
separator itself.  A name that contains it cannot: cut at the separator, its parts join to
the same text.
-/

namespace TradeGate.Text

/-- A text in which a character does not occur. -/
def Lacks (c : Char) (s : String) : Prop :=
  c ∉ s.toList

instance (c : Char) (s : String) : Decidable (Lacks c s) :=
  inferInstanceAs (Decidable (c ∉ s.toList))

/-- What stands before the first separator of a list, and what stands after it. -/
theorem append_cons_inj
    {c : Char} {xs xs' ys ys' : List Char} (hx : c ∉ xs) (hx' : c ∉ xs') :
  xs ++ c :: ys = xs' ++ c :: ys' ↔ xs = xs' ∧ ys = ys'
  := by
  induction xs generalizing xs' with
  | nil =>
    cases xs' with
    | nil => simp
    | cons x' xs' =>
      have hne : c ≠ x' := List.ne_of_not_mem_cons hx'
      simp [hne]
  | cons x xs ih =>
    have hne : c ≠ x := List.ne_of_not_mem_cons hx
    cases xs' with
    | nil => simp [hne.symm]
    | cons x' xs' =>
      simp only [List.cons_append, List.cons.injEq,
        ih (List.not_mem_of_not_mem_cons hx) (List.not_mem_of_not_mem_cons hx'), and_assoc]

theorem toList_separated
    (c : Char) (a b : String) :
  (a ++ String.singleton c ++ b).toList = a.toList ++ c :: b.toList
  := by
  simp

/-- Texts that are joined by a separator are determined by the joined text, if the separator
does not occur in the first one. -/
theorem separated_inj
    {c : Char} {a a' b b' : String} (ha : Lacks c a) (ha' : Lacks c a') :
  a ++ String.singleton c ++ b = a' ++ String.singleton c ++ b' ↔ a = a' ∧ b = b'
  := by
  rw [← String.toList_inj, toList_separated, toList_separated, append_cons_inj ha ha',
    String.toList_inj, String.toList_inj]

/-- A text is not what it and another one join to. -/
theorem ne_separated
    (c : Char) (a b : String) :
  a ≠ a ++ String.singleton c ++ b
  := by
  intro h
  have hlength := congrArg String.length h
  simp only [String.length_append, String.length_singleton] at hlength
  omega

/-- A text that contains a separator is what its parts before and after it join to. -/
theorem exists_separated_of_not_lacks
    {c : Char} {s : String} (h : ¬ Lacks c s) :
  ∃ a b, s = a ++ String.singleton c ++ b
  := by
  obtain ⟨before, after, hs⟩ := List.append_of_mem (not_not.mp h)
  use String.ofList before, String.ofList after
  rw [← String.toList_inj, toList_separated, hs]
  simp

end TradeGate.Text
