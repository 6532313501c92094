import TradeGate.Fault
import TradeGate.Text.Case

/-!
# Environments

An environment gives texts to names.  A name is looked up exactly, or without regard to
the case of its letters; then the variable that was added last counts.  Some texts cannot
be names of variables, and no text holds the null character.
-/

namespace TradeGate

/-- Variables by name in the order in which they were added; names are distinct. -/
structure Environment where
  bindings : List (String × String)
deriving Repr, Inhabited

namespace Environment

def empty : Environment := ⟨[]⟩

/-- The value of a variable. -/
def get? (e : Environment) (name : String) : Option String :=
  (e.bindings.find? fun v => v.1 == name).map Prod.snd

/-- The variables with a value under a name, in the place of the old one. -/
def put (name value : String) : List (String × String) → List (String × String)
  | [] => [(name, value)]
  | (k, v) :: rest => if k = name then (k, value) :: rest else (k, v) :: put name value rest

/-- Gives a value to a name. -/
def set (e : Environment) (name value : String) : Environment :=
  ⟨put name value e.bindings⟩

/-- Whether a variable of this name can have this value. -/
def check (name value : String) : Except Fault Unit :=
  if (name ++ value).toList.contains '\x00' then .error (.badValue "embedded null byte")
  else if name.toList.contains '=' then .error (.badValue "illegal environment variable name")
  else if name.isEmpty then .error .nameless
  else .ok ()

/-- Gives values to names in order, up to the first variable that cannot be. -/
def setAll (e : Environment) : List (String × String) → Except Fault Unit × Environment
  | [] => (.ok (), e)
  | (name, value) :: rest =>
    match check name value with
    | .ok () => setAll (e.set name value) rest
    | .error f => (.error f, e)

/-- Gives values to those of some names that have none, up to the first variable that cannot
be. -/
def setMissing (e : Environment) : List (String × String) → Except Fault Unit × Environment
  | [] => (.ok (), e)
  | (name, value) :: rest =>
    if (e.get? name).isSome then setMissing e rest
    else
      match check name value with
      | .ok () => setMissing (e.set name value) rest
      | .error f => (.error f, e)

/-- A name without regard to the case of its letters. -/
def folded (name : String) : String :=
  Text.lower name

@[simp]
theorem get?_set
    (e : Environment) (name value : String) :
  (e.set name value).get? name = some value
  := by
  unfold get? set
  dsimp only
  induction e.bindings with
  | nil => simp [put]
  | cons v rest ih =>
    by_cases h : v.1 = name
    · simp [put, h]
    · simpa [put, h] using ih

/-- Other names keep their values. -/
theorem get?_set_of_ne
    (e : Environment) {name other : String} (value : String) (h : other ≠ name) :
  (e.set name value).get? other = e.get? other
  := by
  unfold get? set
  dsimp only
  induction e.bindings with
  | nil => simp [put, Ne.symm h]
  | cons v rest ih =>
    by_cases hv : v.1 = name
    · simp [put, hv, Ne.symm h]
    · by_cases ho : v.1 = other
      · simp [put, ho, h]
      · simpa [put, hv, ho] using ih

/-- A name that has a value keeps it. -/
theorem get?_setMissing
    {e : Environment} {name old : String} (vs : List (String × String))
    (h : e.get? name = some old) :
  (e.setMissing vs).2.get? name = some old
  := by
  induction vs generalizing e with
  | nil => simpa [setMissing] using h
  | cons v rest ih =>
    unfold setMissing
    split
    · exact ih h
    · next hv =>
      split
      · apply ih
        have : name ≠ v.1 := by
          rintro rfl
          simp [h] at hv
        rw [get?_set_of_ne _ _ this, h]
      · exact h

end Environment

end TradeGate
