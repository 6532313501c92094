import TradeGate.Fault

/-!
# Paths

A path names folders and then, perhaps, a document.  It begins at the folder that is
worked in, or at the outermost one.  Empty names and single dots in its text do not
count; two dots lead back to the folder around, which is found only on the way.
-/

namespace TradeGate

/-- A path.  The names begin with the outermost folder; `isAbsolute` tells whether that is
the outermost of all. -/
structure Path where
  isAbsolute : Bool
  names : List String
deriving DecidableEq, Repr, Inhabited

namespace Path

/-- The path of the folder that is worked in. -/
def here : Path := ⟨false, []⟩

/-- The path that a text denotes. -/
def ofText (s : String) : Path :=
  ⟨s.startsWith "/", (s.splitToList (· == '/')).filter fun t => t != "" && t != "."⟩

/-- The text of a path. -/
def text (p : Path) : String :=
  let names := String.intercalate "/" p.names
  if p.isAbsolute then "/" ++ names
  else if p.names.isEmpty then "."
  else names

/-- The path of the folder. -/
def parent (p : Path) : Path := { p with names := p.names.dropLast }

/-- The path of a name in a folder. -/
def child (p : Path) (name : String) : Path := { p with names := p.names ++ [name] }

/-- The path without its last name, unless it has none. -/
def parent? (p : Path) : Option Path :=
  if p.names.isEmpty then none else some p.parent

/-- The greatest number of bytes of a name. -/
def maxName : Nat := 255

/-- The greatest number of bytes of the text of a path. -/
def maxText : Nat := 4095

/-- Whether a path holds the character that ends a text in memory. -/
def hasNull (p : Path) : Bool :=
  p.names.any fun name => name.toList.contains '\x00'

theorem length_names_parent?
    {p q : Path} (h : p.parent? = some q) :
  q.names.length < p.names.length
  := by
  unfold parent? at h
  split at h
  · cases h
  · next hp =>
    cases h
    cases hn : p.names with
    | nil => simp [hn] at hp
    | cons a as => simp [parent, hn]

end Path

end TradeGate
