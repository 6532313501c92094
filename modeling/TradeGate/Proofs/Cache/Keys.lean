import Mathlib.Data.List.Nodup
import TradeGate.CallKey
import TradeGate.Proofs.Cache.Entries
import TradeGate.Proofs.Value.Form

/-!
# Keys of different calls

The key of a call is what is written for its arguments.  No text that stands in an argument can
pass for the writing of others, so two calls have one key exactly if they have the same arguments;
the order in which the named ones are given makes no difference.
-/

namespace TradeGate

open Text

/-! ### Arguments by position -/

namespace Value

/-- What is written after the first of some arguments. -/
def tupleRest : List Value → List Char
  | [] => [',']
  | vs => continued form vs

theorem toList_tupleForm_cons
    (v : Value) (vs : List Value) :
  (tupleForm (v :: vs)).toList = '(' :: (v.form.toList ++ tupleRest vs ++ [')'])
  := by
  cases vs with
  | nil =>
    simp [tupleForm, tupleRest]
  | cons w vs =>
    rw [tupleForm, forms_eq_map, String.toList_append, String.toList_append, toList_joined]
    · rfl
    · simp

theorem stops_tupleRest
    (vs : List Value) (r : List Char) :
  Stops (tupleRest vs ++ r)
  := by
  cases vs <;> simp [tupleRest, continued]

theorem tupleForm_nil_append_ne
    {w : Value} (hw : w.IsLiteral) (ws : List Value) (r r' : List Char) :
  (tupleForm []).toList ++ r ≠ (tupleForm (w :: ws)).toList ++ r'
  := by
  intro h
  rw [toList_tupleForm_cons, List.cons_append, List.append_assoc, List.append_assoc] at h
  have hopen := hw.neverOpens (show kindOpenedBy ')' = "" by decide)
  apply hopen _ (congrArg List.head? (List.cons.inj h).2).symm

/-- What follows the first argument tells how many there are and which. -/
theorem tupleRest_append_inj
    {vs ws : List Value} (hvs : ∀ v ∈ vs, v.IsLiteral) (hws : ∀ w ∈ ws, w.IsLiteral)
    {r r' : List Char} (h : tupleRest vs ++ ')' :: r = tupleRest ws ++ ')' :: r') :
  vs = ws ∧ r = r'
  := by
  -- A comma alone is followed by the bracket, a comma between two arguments by a blank.
  cases vs with
  | nil =>
    cases ws with
    | nil => exact ⟨rfl, (List.cons.inj (List.cons.inj h).2).2⟩
    | cons w ws => exact absurd (List.cons.inj (List.cons.inj h).2).1 (by decide)
  | cons v vs =>
    cases ws with
    | nil => exact absurd (List.cons.inj (List.cons.inj h).2).1 (by decide)
    | cons w ws =>
      apply continued_append_inj (by decide) (by decide)
        (fun v hv w hw => (hvs v hv).toldApart (hws w hw)) h

/-- Arguments are told apart by what is written for them, whatever follows. -/
theorem tupleForm_append_inj
    {vs ws : List Value} (hvs : ∀ v ∈ vs, v.IsLiteral) (hws : ∀ w ∈ ws, w.IsLiteral)
    {r r' : List Char} (h : (tupleForm vs).toList ++ r = (tupleForm ws).toList ++ r') :
  vs = ws ∧ r = r'
  := by
  cases vs with
  | nil =>
    cases ws with
    | nil => exact ⟨rfl, List.append_cancel_left h⟩
    | cons w ws => exact absurd h (tupleForm_nil_append_ne (hws w List.mem_cons_self) ws r r')
  | cons v vs =>
    cases ws with
    | nil => exact absurd h.symm (tupleForm_nil_append_ne (hvs v List.mem_cons_self) vs r' r)
    | cons w ws =>
      rw [List.forall_mem_cons] at hvs hws
      have hfirst : v.form.toList ++ (tupleRest vs ++ ')' :: r)
          = w.form.toList ++ (tupleRest ws ++ ')' :: r') := by
        simpa [toList_tupleForm_cons] using h
      obtain ⟨rfl, hrest⟩ :=
        hvs.1.toldApart hws.1 (stops_tupleRest vs _) (stops_tupleRest ws _) hfirst
      obtain ⟨rfl, hr⟩ := tupleRest_append_inj hvs.2 hws.2 hrest
      exact ⟨rfl, hr⟩

end Value

open Value

namespace Call

/-! ### Arguments by name -/

theorem toldApart_namedForm
    {x y : String × Value} (h : ToldApart form x.2 y.2) :
  ToldApart namedForm x y
  := by
  intro r r' hr hr' heq
  have hparts : quotedChars x.1.toList ++ (',' :: ' ' :: (x.2.form.toList ++ ')' :: r))
      = quotedChars y.1.toList ++ (',' :: ' ' :: (y.2.form.toList ++ ')' :: r')) := by
    simpa [namedForm, toList_quoted] using heq
  obtain ⟨hname, hrest⟩ := quotedChars_append_inj hparts
  have hvalues := (List.cons.inj (List.cons.inj hrest).2).2
  obtain ⟨hvalue, hrest⟩ := h (stops_cons.mpr (by decide)) (stops_cons.mpr (by decide)) hvalues
  exact ⟨Prod.ext (String.toList_inj.mp hname) hvalue, (List.cons.inj hrest).2⟩

theorem neverOpens_namedForm
    (x : String × Value) :
  NeverOpens ']' namedForm x
  := by
  intro r h
  simp [namedForm] at h

/-- A list of named arguments is told by what is written for it. -/
theorem joined_namedForm_inj
    {xs ys : List (String × Value)} (hxs : ∀ x ∈ xs, x.2.IsLiteral)
    (hys : ∀ y ∈ ys, y.2.IsLiteral)
    (h : "[" ++ joined (xs.map namedForm) ++ "]" = "[" ++ joined (ys.map namedForm) ++ "]") :
  xs = ys
  := by
  have hlist : (joined (xs.map namedForm)).toList ++ [']']
      = (joined (ys.map namedForm)).toList ++ [']'] := by
    simpa using congrArg String.toList h
  exact (joined_append_inj (by decide) (by decide)
    (fun x hx y hy => toldApart_namedForm ((hxs x hx).toldApart (hys y hy)))
    (fun x _ => neverOpens_namedForm x) (fun y _ => neverOpens_namedForm y) hlist).1

/-! ### The order of names -/

theorem sortedNamed_perm
    (c : Call) :
  c.sortedNamed.Perm c.named
  := List.mergeSort_perm ..

theorem sortedNamed_pairwise
    (c : Call) :
  c.sortedNamed.Pairwise fun a b => ¬ b.1 < a.1
  := by
  have hbelow (x y : String × Value) : (!(y.1 < x.1)) = true ↔ x.1 ≤ y.1 := by
    rw [Bool.not_eq_true', decide_eq_false_iff_not, String.not_lt]
  have htrans (x y z : String × Value) (hxy : !(y.1 < x.1)) (hyz : !(z.1 < y.1)) :
      !(z.1 < x.1) := by
    rw [hbelow] at hxy hyz ⊢
    apply String.le_trans hxy hyz
  have htotal (x y : String × Value) : !(y.1 < x.1) || !(x.1 < y.1) := by
    rw [Bool.or_eq_true, hbelow, hbelow]
    apply String.le_total
  apply (List.pairwise_mergeSort htrans htotal c.named).imp
  intro x y hxy
  apply String.not_lt.mpr ((hbelow x y).mp hxy)

/-- Named arguments with different names have one order only. -/
theorem sortedNamed_eq_of_perm
    {c c' : Call} (hnames : (c.named.map Prod.fst).Nodup) (h : c.named.Perm c'.named) :
  c.sortedNamed = c'.sortedNamed
  := by
  have hperm : c.sortedNamed.Perm c'.sortedNamed :=
    c.sortedNamed_perm.trans (h.trans c'.sortedNamed_perm.symm)
  refine hperm.eq_of_pairwise ?_ c.sortedNamed_pairwise c'.sortedNamed_pairwise
  intro x y hx hy hxy hyx
  have hmem : x ∈ c.named ∧ y ∈ c.named :=
    ⟨c.sortedNamed_perm.mem_iff.mp hx, (c'.sortedNamed_perm.trans h.symm).mem_iff.mp hy⟩
  apply List.inj_on_of_nodup_map hnames hmem.1 hmem.2
    (String.le_antisymm (String.not_lt.mp hxy) (String.not_lt.mp hyx))

/-! ### Keys -/

/-- Calls with the same arguments: those by position one by one, those by name in any order. -/
structure Same (c c' : Call) : Prop where
  args : c.args = c'.args
  named : c.named.Perm c'.named

/-- The arguments are literals, and no name is given twice. -/
structure IsLiteral (c : Call) : Prop where
  args : ∀ v ∈ c.args, v.IsLiteral
  named : ∀ f ∈ c.named, f.2.IsLiteral
  names : (c.named.map Prod.fst).Nodup

/-- What is written for the named arguments. -/
def namedPart (c : Call) : String :=
  if c.named.isEmpty then "" else "[" ++ joined (c.sortedNamed.map namedForm) ++ "]"

theorem namedPart_eq_of_perm
    {c c' : Call} (hnames : (c.named.map Prod.fst).Nodup) (h : c.named.Perm c'.named) :
  c.namedPart = c'.namedPart
  := by
  rw [namedPart, namedPart, sortedNamed_eq_of_perm hnames h, h.isEmpty_eq]

theorem perm_of_namedPart_eq
    {c c' : Call} (hc : c.IsLiteral) (hc' : c'.IsLiteral) (h : c.namedPart = c'.namedPart) :
  c.named.Perm c'.named
  := by
  have hopen (t : String) : "[" ++ t ++ "]" ≠ "" := by simp
  rw [namedPart, namedPart] at h
  split at h <;> split at h
  case isTrue.isTrue hnone hnone' =>
    rw [List.isEmpty_iff.mp hnone, List.isEmpty_iff.mp hnone']
  case isTrue.isFalse => exact absurd h.symm (hopen _)
  case isFalse.isTrue => exact absurd h (hopen _)
  case isFalse.isFalse =>
    have hsorted := joined_namedForm_inj
      (fun x hx => hc.named x (c.sortedNamed_perm.mem_iff.mp hx))
      (fun x hx => hc'.named x (c'.sortedNamed_perm.mem_iff.mp hx)) h
    apply c.sortedNamed_perm.symm.trans (hsorted ▸ c'.sortedNamed_perm)

theorem key_eq_iff
    {c c' : Call} (hc : c.IsLiteral) (hc' : c'.IsLiteral) :
  c.key = c'.key ↔ c.Same c'
  := by
  constructor
  · intro h
    have hparts : (tupleForm c.args).toList ++ c.namedPart.toList
        = (tupleForm c'.args).toList ++ c'.namedPart.toList := by
      simpa [key, namedPart] using congrArg String.toList h
    obtain ⟨hargs, hnamed⟩ := tupleForm_append_inj hc.args hc'.args hparts
    exact ⟨hargs, perm_of_namedPart_eq hc hc' (String.toList_inj.mp hnamed)⟩
  · intro h
    have hnamed := namedPart_eq_of_perm hc.names h.named
    rw [key, key, h.args]
    exact congrArg _ hnamed

/-- Calls that are served from one entry of a cache have one key. -/
theorem key_eq_of_find?
    {α : Type} {cache : Cache String α} {c c' : Call} {e : Entry String α}
    (h : cache.find? c.key = some e) (h' : cache.find? c'.key = some e) :
  c.key = c'.key
  := by
  rw [← eq_of_beq (Cache.key_of_find? h), ← eq_of_beq (Cache.key_of_find? h')]

/-- Two calls have one key exactly if they have the same arguments, and no entry of a cache serves
two different calls. -/
theorem keys_separate_calls
    {c c' : Call} (hc : c.IsLiteral) (hc' : c'.IsLiteral) :
  (c.key = c'.key ↔ c.Same c')
    ∧ ∀ {α : Type} (cache : Cache String α) (e : Entry String α),
        cache.find? c.key = some e → cache.find? c'.key = some e → c.Same c'
  := by
  have hkey := key_eq_iff hc hc'
  constructor
  · exact hkey
  · intro α cache e h h'
    apply hkey.mp (key_eq_of_find? h h')

/-- A call with some texts, and two named arguments. -/
def ofTexts (texts : List String) : Call where
  args := texts.map .text
  named := [("b", .int 1), ("a", .list [.null, .bytes [0]])]

/-- The call with its named arguments the other way round. -/
def turned (c : Call) : Call :=
  { c with named := c.named.reverse }

theorem isLiteral_ofTexts
    (texts : List String) :
  (ofTexts texts).IsLiteral
  where
  args := by simp [ofTexts, Value.IsLiteral.text]
  named := by
    have hlist : (Value.list [.null, .bytes [0]]).IsLiteral := by
      apply Value.IsLiteral.list
      simp [Value.IsLiteral.null, Value.IsLiteral.bytes]
    simp [ofTexts, Value.IsLiteral.int, hlist]
  names := by simp [ofTexts]

theorem IsLiteral.turned
    {c : Call} (hc : c.IsLiteral) :
  c.turned.IsLiteral
  where
  args := hc.args
  named := by simpa [Call.turned] using hc.named
  names := by simpa [Call.turned] using hc.names

/-- A text that looks like two texts is told apart from them. -/
theorem keys_separate_calls_ofTexts :
  (ofTexts ["1', '2"]).key = (ofTexts ["1', '2"]).turned.key
    ∧ (ofTexts ["1', '2"]).key ≠ (ofTexts ["1", "2"]).key
  := by
  have hliteral := isLiteral_ofTexts ["1', '2"]
  have hturned := (keys_separate_calls hliteral hliteral.turned).1
  have hsplit := (keys_separate_calls hliteral (isLiteral_ofTexts ["1", "2"])).1
  constructor
  · apply hturned.mpr ⟨rfl, List.Perm.swap ..⟩
  · intro h
    exact absurd (congrArg List.length (hsplit.mp h).args) (by decide)

end Call

end TradeGate
