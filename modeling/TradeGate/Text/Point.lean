/-!
# Code points

A text consists of characters, but a text from outside may also have surrogates, which are code
points and no characters.  Such a text is broken, first at its first surrogate.
-/

namespace TradeGate.Text

/-- The code point of the first surrogate. -/
def firstSurrogate : Nat := 0xD800

/-- The number of surrogates. -/
def surrogateCount : Nat := 0x800

/-- The character that is shown in the place of a surrogate. -/
def replacement : Char := '\ufffd'

/-- A code point: a character, or a surrogate by its place among the surrogates. -/
inductive Point where
  | char (c : Char)
  | surrogate (i : Fin surrogateCount)
deriving DecidableEq, Repr

namespace Point

/-- The number of a code point. -/
def code : Point → Nat
  | char c => c.toNat
  | surrogate i => firstSurrogate + i

/-- The code point of a number. -/
def ofCode (n : Nat) : Point :=
  if h : n - firstSurrogate < surrogateCount ∧ firstSurrogate ≤ n then .surrogate ⟨_, h.1⟩
  else .char (.ofNat n)

/-- The character that is shown for a code point. -/
def shown : Point → Char
  | char c => c
  | surrogate _ => replacement

end Point

/-- The code points of a text. -/
def points (s : String) : List Point :=
  s.toList.map .char

theorem points_inj
    {s t : String} :
  points s = points t ↔ s = t
  := by
  rw [points, points, List.map_inj_right fun _ _ => Point.char.inj, String.toList_inj]

/-- A text that has a surrogate: the characters before the first one, which one it is, and what
comes after it. -/
structure Broken where
  before : String
  surrogate : Fin surrogateCount
  rest : List Point
deriving DecidableEq, Repr

namespace Broken

/-- The code points of a broken text. -/
def points (t : Broken) : List Point :=
  Text.points t.before ++ .surrogate t.surrogate :: t.rest

/-- A broken text as it is shown. -/
def shown (t : Broken) : String :=
  .ofList (t.points.map Point.shown)

/-- A broken text with texts before and after it. -/
def between (s : String) (t : Broken) (s' : String) : Broken :=
  { t with before := s ++ t.before, rest := t.rest ++ Text.points s' }

end Broken

/-- The characters up to the first surrogate, and this with what comes after it. -/
def splitPoints : List Point → List Char × Option (Fin surrogateCount × List Point)
  | [] => ([], none)
  | .surrogate i :: ps => ([], some (i, ps))
  | .char c :: ps =>
    let (cs, rest) := splitPoints ps
    (c :: cs, rest)

/-- The text of some code points, which is broken if one of them is a surrogate. -/
def ofPoints (ps : List Point) : Except Broken String :=
  match splitPoints ps with
  | (cs, none) => .ok (.ofList cs)
  | (cs, some (i, rest)) => .error ⟨.ofList cs, i, rest⟩

/-- The text of some code points has these code points. -/
theorem points_ofPoints
    (ps : List Point) :
  (match ofPoints ps with
    | .ok s => points s
    | .error t => t.points) = ps
  := by
  have hsplit : ∀ ps : List Point, (splitPoints ps).1.map .char
      ++ (match (splitPoints ps).2 with
        | none => []
        | some (i, rest) => .surrogate i :: rest) = ps := by
    intro ps
    induction ps with
    | nil => rfl
    | cons p ps ih =>
      cases p with
      | char c => exact congrArg (Point.char c :: ·) ih
      | surrogate i => rfl
  have h := hsplit ps
  unfold ofPoints
  rcases hrun : splitPoints ps with ⟨cs, _ | ⟨i, rest⟩⟩ <;> rw [hrun] at h
  · simpa [points] using h
  · simpa [Broken.points, points] using h

end TradeGate.Text
