import TradeGate.Proofs.Text.Quoting
import TradeGate.Value

/-!
# Written forms tell values apart

The first character of a written form tells the kind of the value.  Texts and bytes end at their
quote, lists and records at their bracket, and a whole number at the first character that is no
digit.  So two values are told apart by their forms even where more text follows, as it does inside
a list or a record.
-/

namespace TradeGate

/-! ### What comes after -/

namespace Text

/-- A rest that does not go on with a digit. -/
def Stops (rest : List Char) : Prop :=
  ∀ c ∈ rest.head?, c.isDigit = false

@[simp]
theorem stops_cons
    {c : Char} {rest : List Char} :
  Stops (c :: rest) ↔ c.isDigit = false
  := by
  simp [Stops]

/-- Two items that are told apart by what is written for them, whatever text follows that does not
go on with a digit. -/
def ToldApart {α : Type} (f : α → String) (x y : α) : Prop :=
  ∀ ⦃r r' : List Char⦄, Stops r → Stops r' → (f x).toList ++ r = (f y).toList ++ r' →
    x = y ∧ r = r'

/-! ### Whole numbers -/

theorem isDigit_of_mem_repr
    {n : Nat} {c : Char} (hc : c ∈ n.repr.toList) :
  c.isDigit = true
  := by
  rw [Nat.toList_repr] at hc
  apply Nat.isDigit_of_mem_toDigits (by decide) (by decide) hc

theorem repr_eq_cons
    (n : Nat) :
  ∃ c rest, n.repr.toList = c :: rest ∧ c.isDigit = true
  := by
  obtain ⟨c, rest, hrepr⟩ := List.exists_cons_of_ne_nil (l := n.repr.toList) (by
    rw [Nat.toList_repr]
    exact Nat.toDigits_ne_nil)
  use c, rest, hrepr
  apply isDigit_of_mem_repr (hrepr ▸ List.mem_cons_self)

/-- Decimal digits go as far as there are digits. -/
theorem takeWhile_repr_append
    (n : Nat) {r : List Char} (hr : Stops r) :
  (n.repr.toList ++ r).takeWhile Char.isDigit = n.repr.toList
  := by
  have hrest : r.takeWhile Char.isDigit = [] := by
    cases r with
    | nil => rfl
    | cons c r =>
      rw [stops_cons] at hr
      rw [List.takeWhile_cons_of_neg (by simp [hr])]
  rw [List.takeWhile_append_of_pos (fun c hc => isDigit_of_mem_repr hc), hrest, List.append_nil]

theorem toldApart_repr
    (m n : Nat) :
  ToldApart Nat.repr m n
  := by
  intro r r' hr hr' h
  have hdigits := congrArg (List.takeWhile Char.isDigit) h
  rw [takeWhile_repr_append m hr, takeWhile_repr_append n hr'] at hdigits
  constructor
  · rw [Nat.toList_repr, Nat.toList_repr] at hdigits
    rw [← Nat.ofDigitChars_ten_toDigits (n := m), hdigits, Nat.ofDigitChars_ten_toDigits]
  · rw [hdigits] at h
    apply List.append_cancel_left h

theorem toldApart_toString
    (m n : Int) :
  ToldApart (fun k : Int => toString k) m n
  := by
  intro r r' hr hr' h
  have hnegative (k : Nat) : (toString (Int.negSucc k)).toList = '-' :: (k + 1).repr.toList := by
    change ("-" ++ (k + 1).repr).toList = _
    rw [String.toList_append]
    rfl
  have hne (k : Nat) (a b : List Char) : k.repr.toList ++ a ≠ '-' :: b := by
    obtain ⟨c, rest, hk, hc⟩ := repr_eq_cons k
    rw [hk]
    intro heq
    rw [(List.cons.inj heq).1] at hc
    exact absurd hc (by decide)
  cases m with
  | ofNat m =>
    cases n with
    | ofNat n =>
      obtain ⟨heq, hrest⟩ := toldApart_repr m n hr hr' h
      exact ⟨congrArg Int.ofNat heq, hrest⟩
    | negSucc n =>
      dsimp only at h
      rw [hnegative] at h
      exact absurd h (hne m _ _)
  | negSucc m =>
    cases n with
    | ofNat n =>
      dsimp only at h
      rw [hnegative] at h
      exact absurd h.symm (hne n _ _)
    | negSucc n =>
      dsimp only at h
      rw [hnegative, hnegative] at h
      obtain ⟨heq, hrest⟩ := toldApart_repr (m + 1) (n + 1) hr hr' (List.cons.inj h).2
      exact ⟨congrArg Int.negSucc (Nat.succ.inj heq), hrest⟩

end Text

open Text

namespace Value

/-! ### Items in brackets -/

/-- What is written for the items after the first one. -/
def continued {α : Type} (f : α → String) (xs : List α) : List Char :=
  xs.flatMap fun x => ',' :: ' ' :: (f x).toList

theorem toList_joined
    {α : Type} (f : α → String) (x : α) (xs : List α) :
  (joined ((x :: xs).map f)).toList = (f x).toList ++ continued f xs
  := by
  induction xs generalizing x with
  | nil => simp [joined, continued]
  | cons y ys ih =>
    have hrest := ih y
    rw [List.map_cons] at hrest
    rw [List.map_cons, List.map_cons, joined, String.intercalate_cons_cons, String.toList_append,
      String.toList_append, ← joined, hrest, List.append_assoc]
    rfl

/-- What is written for an item does not begin with a character. -/
def NeverOpens {α : Type} (c : Char) (f : α → String) (x : α) : Prop :=
  ∀ r, ((f x).toList ++ r).head? ≠ some c

section Items

variable {α : Type} {f : α → String} {close : Char}

theorem stops_continued
    (hclose : close.isDigit = false) (xs : List α) (r : List Char) :
  Stops (continued f xs ++ close :: r)
  := by
  cases xs with
  | nil => simpa [continued] using hclose
  | cons x xs => simp [continued]

/-- Items that are told apart pair by pair are told apart together, up to the closing bracket. -/
theorem continued_append_inj
    (hcomma : close ≠ ',') (hclose : close.isDigit = false) {xs ys : List α}
    (hf : ∀ x ∈ xs, ∀ y ∈ ys, ToldApart f x y) {r r' : List Char}
    (h : continued f xs ++ close :: r = continued f ys ++ close :: r') :
  xs = ys ∧ r = r'
  := by
  induction xs generalizing ys with
  | nil =>
    cases ys with
    | nil => exact ⟨rfl, (List.cons.inj h).2⟩
    | cons y ys => exact absurd (List.cons.inj h).1 hcomma
  | cons x xs ih =>
    cases ys with
    | nil => exact absurd (List.cons.inj h).1.symm hcomma
    | cons y ys =>
      have hitem : (f x).toList ++ (continued f xs ++ close :: r)
          = (f y).toList ++ (continued f ys ++ close :: r') := by
        simpa [continued] using h
      obtain ⟨rfl, hrest⟩ := hf x List.mem_cons_self y List.mem_cons_self
        (stops_continued hclose xs r) (stops_continued hclose ys r') hitem
      obtain ⟨rfl, hr⟩ := ih (fun x hx y hy =>
        hf x (List.mem_cons_of_mem _ hx) y (List.mem_cons_of_mem _ hy)) hrest
      exact ⟨rfl, hr⟩

/-- The same for all items between two brackets, if no item begins with the closing one. -/
theorem joined_append_inj
    (hcomma : close ≠ ',') (hclose : close.isDigit = false) {xs ys : List α}
    (hf : ∀ x ∈ xs, ∀ y ∈ ys, ToldApart f x y)
    (hxs : ∀ x ∈ xs, NeverOpens close f x) (hys : ∀ y ∈ ys, NeverOpens close f y)
    {r r' : List Char}
    (h : (joined (xs.map f)).toList ++ close :: r = (joined (ys.map f)).toList ++ close :: r') :
  xs = ys ∧ r = r'
  := by
  cases xs with
  | nil =>
    cases ys with
    | nil => exact ⟨rfl, (List.cons.inj h).2⟩
    | cons y ys =>
      rw [toList_joined, List.append_assoc] at h
      exact absurd (congrArg List.head? h).symm (hys y List.mem_cons_self _)
  | cons x xs =>
    cases ys with
    | nil =>
      rw [toList_joined, List.append_assoc] at h
      exact absurd (congrArg List.head? h) (hxs x List.mem_cons_self _)
    | cons y ys =>
      rw [toList_joined, toList_joined, List.append_assoc, List.append_assoc] at h
      obtain ⟨rfl, hrest⟩ := hf x List.mem_cons_self y List.mem_cons_self
        (stops_continued hclose xs r) (stops_continued hclose ys r') h
      obtain ⟨rfl, hr⟩ := continued_append_inj hcomma hclose (fun x hx y hy =>
        hf x (List.mem_cons_of_mem _ hx) y (List.mem_cons_of_mem _ hy)) hrest
      exact ⟨rfl, hr⟩

end Items

/-! ### Kinds of values -/

/-- Nothing, truth values, whole numbers, texts, broken ones among them, bytes, and lists and
records of these. -/
inductive IsLiteral : Value → Prop
  | null : IsLiteral null
  | bool (b : Bool) : IsLiteral (bool b)
  | int (n : Int) : IsLiteral (int n)
  | text (s : String) : IsLiteral (text s)
  | broken (t : Text.Broken) : IsLiteral (broken t)
  | bytes (bs : List UInt8) : IsLiteral (bytes bs)
  | list {items : List Value} (h : ∀ v ∈ items, IsLiteral v) : IsLiteral (list items)
  | record {fields : List (String × Value)} (h : ∀ f ∈ fields, IsLiteral f.2) :
    IsLiteral (record fields)

/-- The kind of the literals whose forms begin with a character, if there are any. -/
def kindOpenedBy (c : Char) : String :=
  if c = 'N' then "NoneType"
  else if c = 'T' ∨ c = 'F' then "bool"
  else if c = '-' ∨ c.isDigit = true then "int"
  else if c = '\'' ∨ c = '"' then "str"
  else if c = 'b' then "bytes"
  else if c = '[' then "list"
  else if c = '\x7b' then "dict"
  else ""

theorem kindOpenedBy_of_isDigit
    {c : Char} (hc : c.isDigit = true) :
  kindOpenedBy c = "int"
  := by
  have hne {d : Char} (hd : d.isDigit = false) : c ≠ d := by
    rintro rfl
    rw [hc] at hd
    cases hd
  rw [kindOpenedBy, if_neg (hne (by decide)), if_neg (by simp [hne]), if_pos (.inr hc)]

/-- The form of a named field. -/
def fieldForm (f : String × Value) : String :=
  quoted f.1 ++ ": " ++ form f.2

theorem fieldForms_eq_map
    (fields : List (String × Value)) :
  fieldForms fields = fields.map fieldForm
  := by
  induction fields with
  | nil => rfl
  | cons f rest ih => rw [fieldForms, ih, List.map_cons, fieldForm]

theorem toList_form_list
    (items : List Value) :
  (list items).form.toList = '[' :: (joined (items.map form)).toList ++ [']']
  := by
  rw [form, forms_eq_map, String.toList_append, String.toList_append]
  rfl

theorem toList_form_record
    (fields : List (String × Value)) :
  (record fields).form.toList = '\x7b' :: (joined (fields.map fieldForm)).toList ++ ['\x7d']
  := by
  rw [form, fieldForms_eq_map, String.toList_append, String.toList_append]
  rfl

theorem toList_quoted
    (s : String) :
  (quoted s).toList = quotedChars s.toList
  := String.toList_ofList

theorem toList_form_text
    (s : String) :
  (text s).form.toList = quotedPointChars (points s)
  := by
  rw [form, toList_quoted, quotedPointChars_points]

theorem toList_form_broken
    (t : Text.Broken) :
  (broken t).form.toList = quotedPointChars t.points
  := String.toList_ofList

theorem kindOpenedBy_quoteFor
    (cs : List Char) :
  kindOpenedBy (quoteFor cs) = "str"
  := by
  obtain hquote | hquote := isQuote_quoteFor cs <;> rw [hquote] <;> decide

/-- The first character of a form tells the kind. -/
theorem IsLiteral.form_opens
    {v : Value} (hv : v.IsLiteral) :
  ∃ c rest, v.form.toList = c :: rest ∧ kindOpenedBy c = v.kindName
  := by
  cases hv with
  | null => exact ⟨'N', _, rfl, rfl⟩
  | bool b =>
    cases b with
    | true => exact ⟨'T', _, rfl, rfl⟩
    | false => exact ⟨'F', _, rfl, rfl⟩
  | int n =>
    cases n with
    | ofNat n =>
      obtain ⟨c, rest, hrepr, hc⟩ := repr_eq_cons n
      exact ⟨c, rest, hrepr, kindOpenedBy_of_isDigit hc⟩
    | negSucc n => exact ⟨'-', _, String.toList_append, rfl⟩
  | text s => exact ⟨quoteFor s.toList, _, toList_quoted s, kindOpenedBy_quoteFor _⟩
  | broken t => exact ⟨_, _, toList_form_broken t, kindOpenedBy_quoteFor _⟩
  | bytes bs => exact ⟨'b', _, String.toList_ofList, rfl⟩
  | list h => exact ⟨'[', _, toList_form_list _, rfl⟩
  | record h => exact ⟨'\x7b', _, toList_form_record _, rfl⟩

/-- So literals with the same form, whatever follows, are of one kind. -/
theorem IsLiteral.kindName_eq
    {v w : Value} (hv : v.IsLiteral) (hw : w.IsLiteral) {r r' : List Char}
    (h : v.form.toList ++ r = w.form.toList ++ r') :
  v.kindName = w.kindName
  := by
  obtain ⟨c, rest, hform, hkind⟩ := hv.form_opens
  obtain ⟨c', rest', hform', hkind'⟩ := hw.form_opens
  rw [hform, hform'] at h
  rw [← hkind, ← hkind', (List.cons.inj h).1]

/-- No form begins with a character that opens no kind. -/
theorem IsLiteral.neverOpens
    {v : Value} (hv : v.IsLiteral) {c : Char} (hc : kindOpenedBy c = "") :
  NeverOpens c form v
  := by
  obtain ⟨c', rest, hform, hkind⟩ := hv.form_opens
  intro r h
  rw [hform] at h
  rw [Option.some.inj h, hc] at hkind
  cases hv <;> simp [kindName] at hkind

/-! ### Forms of literals -/

theorem toldApart_fieldForm
    {x y : String × Value} (h : ToldApart form x.2 y.2) :
  ToldApart fieldForm x y
  := by
  intro r r' hr hr' heq
  simp only [fieldForm, String.toList_append, List.append_assoc, toList_quoted] at heq
  obtain ⟨hname, hrest⟩ := quotedChars_append_inj heq
  obtain ⟨hvalue, hrest⟩ := h hr hr' (List.append_cancel_left hrest)
  exact ⟨Prod.ext (String.toList_inj.mp hname) hvalue, hrest⟩

theorem neverOpens_fieldForm
    {c : Char} (hc : kindOpenedBy c = "") (x : String × Value) :
  NeverOpens c fieldForm x
  := by
  intro r h
  rw [fieldForm, String.toList_append, String.toList_append, toList_quoted] at h
  have hquote := kindOpenedBy_quoteFor x.1.toList
  rw [Option.some.inj h, hc] at hquote
  exact absurd hquote (by decide)

/-- Literals are told apart by their forms. -/
theorem IsLiteral.toldApart
    {v w : Value} (hv : v.IsLiteral) (hw : w.IsLiteral) :
  ToldApart form v w
  := by
  induction hv generalizing w with
  | null =>
    intro r r' hr hr' h
    have hkind := IsLiteral.null.kindName_eq hw h
    cases hw with
    | null => exact ⟨rfl, List.append_cancel_left h⟩
    | _ => simp [kindName] at hkind
  | bool b =>
    intro r r' hr hr' h
    have hkind := (IsLiteral.bool b).kindName_eq hw h
    cases hw with
    | bool c =>
      cases b <;> cases c
      · exact ⟨rfl, List.append_cancel_left h⟩
      · exact absurd (List.cons.inj h).1 (by decide)
      · exact absurd (List.cons.inj h).1 (by decide)
      · exact ⟨rfl, List.append_cancel_left h⟩
    | _ => simp [kindName] at hkind
  | int m =>
    intro r r' hr hr' h
    have hkind := (IsLiteral.int m).kindName_eq hw h
    cases hw with
    | int n =>
      obtain ⟨rfl, hrest⟩ := toldApart_toString m n hr hr' h
      exact ⟨rfl, hrest⟩
    | _ => simp [kindName] at hkind
  | text s =>
    intro r r' hr hr' h
    have hkind := (IsLiteral.text s).kindName_eq hw h
    cases hw with
    | text t =>
      rw [form, form, toList_quoted, toList_quoted] at h
      obtain ⟨heq, hrest⟩ := quotedChars_append_inj h
      exact ⟨congrArg Value.text (String.toList_inj.mp heq), hrest⟩
    | broken t =>
      rw [toList_form_text, toList_form_broken] at h
      exact absurd (quotedPointChars_append_inj h).1 (points_ne_broken s t)
    | _ => simp [kindName] at hkind
  | broken t =>
    intro r r' hr hr' h
    have hkind := (IsLiteral.broken t).kindName_eq hw h
    cases hw with
    | text s =>
      rw [toList_form_text, toList_form_broken] at h
      exact absurd (quotedPointChars_append_inj h).1.symm (points_ne_broken s t)
    | broken t' =>
      rw [toList_form_broken, toList_form_broken] at h
      obtain ⟨heq, hrest⟩ := quotedPointChars_append_inj h
      exact ⟨congrArg Value.broken (broken_points_injective heq), hrest⟩
    | _ => simp [kindName] at hkind
  | bytes a =>
    intro r r' hr hr' h
    have hkind := (IsLiteral.bytes a).kindName_eq hw h
    cases hw with
    | bytes b =>
      rw [form, form, quotedBytes, quotedBytes, String.toList_ofList, String.toList_ofList] at h
      obtain ⟨heq, hrest⟩ := quotedByteChars_append_inj h
      exact ⟨congrArg Value.bytes heq, hrest⟩
    | _ => simp [kindName] at hkind
  | list hitems ih =>
    intro r r' hr hr' h
    have hkind := (IsLiteral.list hitems).kindName_eq hw h
    cases hw with
    | list hitems' =>
      rw [toList_form_list, toList_form_list, List.cons_append, List.cons_append,
        List.append_assoc, List.append_assoc] at h
      obtain ⟨heq, hrest⟩ := joined_append_inj (by decide) (by decide)
        (fun v hv w hw => ih v hv (hitems' w hw)) (fun v hv => (hitems v hv).neverOpens (by decide))
        (fun w hw => (hitems' w hw).neverOpens (by decide)) (List.cons.inj h).2
      exact ⟨congrArg Value.list heq, hrest⟩
    | _ => simp [kindName] at hkind
  | record hfields ih =>
    intro r r' hr hr' h
    have hkind := (IsLiteral.record hfields).kindName_eq hw h
    cases hw with
    | record hfields' =>
      rw [toList_form_record, toList_form_record, List.cons_append, List.cons_append,
        List.append_assoc, List.append_assoc] at h
      obtain ⟨heq, hrest⟩ := joined_append_inj (by decide) (by decide)
        (fun x hx y hy => toldApart_fieldForm (ih x hx (hfields' y hy)))
        (fun x _ => neverOpens_fieldForm (by decide) x)
        (fun y _ => neverOpens_fieldForm (by decide) y) (List.cons.inj h).2
      exact ⟨congrArg Value.record heq, hrest⟩
    | _ => simp [kindName] at hkind

end Value

end TradeGate
