import TradeGate.Path

/-!
# Shelves of documents

A shelf keeps documents in folders.  A path is followed name by name; every name but the
last must lead to a folder.  A document is put into a folder that is there, and folders are
made one by one: what was made before a fault stays.
-/

namespace TradeGate

/-- The names that lead from the outermost folder to a place, in order. -/
abbrev Location := List String

/-- Documents and folders by location. -/
structure Shelf where
  documents : List (Location × String)
  folders : List Location
deriving Repr, Inhabited

/-- What stands at a location. -/
inductive Standing where
  | folder
  | document (text : String)
  | nothing
deriving DecidableEq, Repr

namespace Shelf

/-- The location of the folder that is worked in.  It is two folders deep; no path spells
their empty names. -/
def base : Location := ["", ""]

/-- A shelf without documents. -/
def empty : Shelf := ⟨[], [[], [""], base]⟩

/-- What stands at a location. -/
def standing (s : Shelf) (l : Location) : Standing :=
  if s.folders.contains l then .folder
  else
    match s.documents.find? fun d => d.1 == l with
    | some (_, text) => .document text
    | none => .nothing

/-- The location that names lead to from a folder. -/
def follow (s : Shelf) (l : Location) : List String → Except Fault Location
  | [] => .ok l
  | name :: rest =>
    let next := if name = ".." then l.dropLast else l ++ [name]
    if Path.maxName < name.utf8ByteSize then .error .tooLong
    else if rest.isEmpty then .ok next
    else
      match s.standing next with
      | .folder => follow s next rest
      | .document _ => .error (.path .blocked)
      | .nothing => .error (.path .missing)

/-- The location that a path leads to. -/
def locate (s : Shelf) (p : Path) : Except Fault Location :=
  if p.hasNull then .error (.badValue "embedded null byte")
  else if Path.maxText < p.text.utf8ByteSize then .error .tooLong
  else s.follow (if p.isAbsolute then [] else base) p.names

/-- What a path leads to; a path that leads nowhere leads to nothing. -/
def find (s : Shelf) (p : Path) : Except Fault Standing :=
  match s.locate p with
  | .ok l => .ok (s.standing l)
  | .error (.path _) => .ok .nothing
  | .error e => .error e

/-- The document under a path, if there is one. -/
def document? (s : Shelf) (p : Path) : Option String :=
  match s.find p with
  | .ok (.document text) => some text
  | _ => none

/-- Puts a document under a path whose folder is there. -/
def put (s : Shelf) (p : Path) (text : String) : Except Fault Shelf := do
  let l ← s.locate p
  if s.folders.contains l then throw (.path .isFolder)
  return { s with documents := s.documents.filter (fun d => d.1 != l) ++ [(l, text)] }

/-! ### Making folders -/

/-- Makes one folder, in a folder that is there.  It may be there already. -/
def makeFolder (s : Shelf) (p : Path) : Except Fault Shelf := do
  let l ← s.locate p
  match s.standing l with
  | .folder => return s
  | .document _ => throw (.path .isDocument)
  | .nothing => return { s with folders := s.folders ++ [l] }

/-- Makes a folder and, where they are missing, the folders that lead to it.  The shelf
after a fault has the folders that were made before. -/
def makeFolders (s : Shelf) (p : Path) : Except Fault Unit × Shelf :=
  match s.makeFolder p with
  | .ok s => (.ok (), s)
  | .error (.path .missing) =>
    match _h : p.parent? with
    | none => (.error (.path .missing), s)
    | some q =>
      match s.makeFolders q with
      | (.ok (), s) =>
        match s.makeFolder p with
        | .ok s => (.ok (), s)
        | .error e => (.error e, s)
      | r => r
  | .error e => (.error e, s)
termination_by p.names.length
decreasing_by exact Path.length_names_parent? _h

/-- Puts a document under a path and makes its folders. -/
def write (s : Shelf) (p : Path) (text : String) : Except Fault Unit × Shelf :=
  match s.makeFolders p.parent with
  | (.ok (), s) =>
    match s.put p text with
    | .ok s => (.ok (), s)
    | .error e => (.error e, s)
  | r => r

/-- The paths of all documents below the folder that is worked in, as texts in order. -/
def paths (s : Shelf) : List String :=
  (s.documents.filterMap fun d =>
    if base.isPrefixOf d.1 then some (Path.text ⟨false, d.1.drop base.length⟩) else none).mergeSort
      fun a b => a ≤ b

/-! ### Looking up what was put -/

theorem standing_eq_folder_iff
    {s : Shelf} {l : Location} :
  s.standing l = .folder ↔ s.folders.contains l = true
  := by
  unfold standing
  by_cases h : s.folders.contains l = true
  · simp only [h, if_true]
  · simp only [h]
    cases s.documents.find? fun d => d.1 == l <;> simp

theorem standing_put
    {s : Shelf} {l : Location} {text : String} (h : s.folders.contains l = false) :
  Shelf.standing ⟨s.documents.filter (fun d => d.1 != l) ++ [(l, text)], s.folders⟩ l
    = .document text
  := by
  have : s.documents.find? (fun _ => false) = none := List.find?_eq_none.2 (by simp)
  unfold standing
  rw [h]
  simp [List.find?_append, List.find?_filter, this]

/-- Putting a document does not change the way that names lead. -/
theorem follow_of_folders_eq
    {s t : Shelf} (hf : t.folders = s.folders) (names : List String) (l k : Location)
    (h : s.follow l names = .ok k) :
  t.follow l names = .ok k
  := by
  induction names generalizing l with
  | nil => simpa [follow] using h
  | cons name rest ih =>
    unfold follow at h ⊢
    dsimp only at h ⊢
    split at h
    · cases h
    · split at h
      · next hlong hrest => simpa [hlong, hrest] using h
      · next hlong hrest =>
        rw [if_neg hlong, if_neg hrest]
        split at h
        · next hs =>
          rw [standing_eq_folder_iff] at hs
          have : t.standing (if name = ".." then l.dropLast else l ++ [name]) = .folder := by
            rw [standing_eq_folder_iff, hf]
            exact hs
          rw [this]
          exact ih _ h
        · cases h
        · cases h

/-- A document is found under the path that it was put under. -/
theorem document?_put
    {s t : Shelf} {p : Path} {text : String} (h : s.put p text = .ok t) :
  t.document? p = some text
  := by
  unfold put at h
  cases hl : s.locate p with
  | error e => rw [hl] at h; cases h
  | ok l =>
    rw [hl] at h
    by_cases hc : s.folders.contains l = true
    · simp only [bind, Except.bind, hc, if_true] at h
      cases h
    · simp only [bind, Except.bind, hc, pure, Except.pure] at h
      have hc' : s.folders.contains l = false := by simpa using hc
      cases h
      unfold document? find
      have : Shelf.locate ⟨s.documents.filter (fun d => d.1 != l) ++ [(l, text)], s.folders⟩ p
          = .ok l := by
        unfold locate at hl ⊢
        split at hl
        · cases hl
        · split at hl
          · cases hl
          · next hn ht =>
            rw [if_neg hn, if_neg ht]
            have hf : Shelf.folders
                ⟨s.documents.filter (fun d => d.1 != l) ++ [(l, text)], s.folders⟩ = s.folders :=
              rfl
            exact follow_of_folders_eq hf _ _ _ hl
      rw [this]
      dsimp only
      rw [standing_put hc']

end Shelf

end TradeGate
