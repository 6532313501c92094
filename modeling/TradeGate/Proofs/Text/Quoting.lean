import Mathlib.Algebra.Group.Nat.Defs
import Mathlib.Data.List.Basic
import Mathlib.Tactic.SplitIfs
import TradeGate.Text.Quoted

/-!
# Quoted text reads back

Between the quotes a text is written one character after the other, and what is written for a
character can be read back without regard to what comes after it.  No character is written with
the quote in front, so the closing quote is found too: a quoted text determines the text and the
place where it ends.  The same holds of texts with surrogates and of byte strings.
-/

namespace TradeGate.Text

/-! ### Hexadecimal digits -/

/-- The value of a hexadecimal digit in lower case. -/
def hexValue (c : Char) : Nat :=
  if c.toNat < 'a'.toNat then c.toNat - '0'.toNat else c.toNat - 'a'.toNat + 10

/-- The number that hexadecimal digits denote, the first digit counting most. -/
def hexNumber (cs : List Char) : Nat :=
  cs.foldl (fun n c => 16 * n + hexValue c) 0

theorem hexValue_hexDigit
    {n : Nat} (h : n < 16) :
  hexValue (hexDigit n) = n
  := by
  decide +revert

theorem hexNumber_hexDigits
    (width n : Nat) :
  hexNumber (hexDigits width n) = n % 16 ^ width
  := by
  induction width generalizing n with
  | zero => rw [hexDigits, Nat.pow_zero, Nat.mod_one]; rfl
  | succ width ih =>
    have hrest : hexNumber (hexDigits width (n / 16)) = n / 16 % 16 ^ width := ih (n / 16)
    rw [hexNumber] at hrest
    rw [hexDigits, hexNumber, List.foldl_append, hrest, List.foldl_cons, List.foldl_nil,
      hexValue_hexDigit (Nat.mod_lt _ (by decide)), Nat.pow_succ', Nat.mod_mul, Nat.add_comm]

/-! ### One character -/

/-- Reads the code point that is written after a backslash. -/
def readEscape : List Char → Option (Nat × List Char)
  | [] => none
  | c :: rest =>
    if c = 'x' then some (hexNumber (rest.take 2), rest.drop 2)
    else if c = 'u' then some (hexNumber (rest.take 4), rest.drop 4)
    else if c = 'U' then some (hexNumber (rest.take 8), rest.drop 8)
    else if c = 't' then some ('\t'.toNat, rest)
    else if c = 'n' then some ('\n'.toNat, rest)
    else if c = 'r' then some ('\r'.toNat, rest)
    else some (c.toNat, rest)

/-- Reads the code point that is written first between quotes. -/
def readCode : List Char → Option (Nat × List Char)
  | [] => none
  | c :: rest => if c = '\\' then readEscape rest else some (c.toNat, rest)

/-- Each item is written so that its number can be read back, and never with `q` in front. -/
structure Escapes {α : Type} (q : Char) (f : α → List Char) (code : α → Nat) : Prop where
  read : ∀ x rest, readCode (f x ++ rest) = some (code x, rest)
  head : ∀ x rest, (f x ++ rest).head? ≠ some q

theorem readCode_codeEscape
    {n : Nat} (h : n < 16 ^ 8) (rest : List Char) :
  readCode (codeEscape n ++ rest) = some (n, rest)
  := by
  have htake (width : Nat) : (hexDigits width n ++ rest).take width = hexDigits width n :=
    List.take_left' (length_hexDigits width n)
  have hdrop (width : Nat) : (hexDigits width n ++ rest).drop width = rest :=
    List.drop_left' (length_hexDigits width n)
  have hnumber (width : Nat) (hn : n < 16 ^ width) : hexNumber (hexDigits width n) = n := by
    rw [hexNumber_hexDigits, Nat.mod_eq_of_lt hn]
  unfold codeEscape
  split_ifs with hbyte hshort
  · simp [readCode, readEscape, htake, hdrop, hnumber 2 hbyte]
  · simp [readCode, readEscape, htake, hdrop, hnumber 4 hshort]
  · simp [readCode, readEscape, htake, hdrop, hnumber 8 h]

theorem head?_codeEscape
    (n : Nat) (rest : List Char) :
  (codeEscape n ++ rest).head? = some '\\'
  := by
  unfold codeEscape
  split_ifs <;> rfl

/-- One of the two quotes. -/
def IsQuote (q : Char) : Prop :=
  q = '\'' ∨ q = '"'

theorem isQuote_quoteFor
    (cs : List Char) :
  IsQuote (quoteFor cs)
  := by
  unfold quoteFor
  split_ifs
  · exact .inr rfl
  · exact .inl rfl

variable {q : Char}

theorem IsQuote.ne_backslash
    (hq : IsQuote q) :
  '\\' ≠ q
  := by
  obtain rfl | rfl := hq <;> decide

theorem escapes_escapeChar
    (hq : IsQuote q) :
  Escapes q (escapeChar q) Char.toNat
  where
  read c rest := by
    have hc : c.toNat < 16 ^ 8 := c.val.toNat_lt
    unfold escapeChar
    split_ifs with hmarked htab hline hreturn hprintable
    · obtain rfl | rfl := hmarked
      · obtain rfl | rfl := hq <;> rfl
      · rfl
    · rw [htab]; rfl
    · rw [hline]; rfl
    · rw [hreturn]; rfl
    · have hne : c ≠ '\\' := fun h => hmarked (.inr h)
      rw [List.singleton_append, readCode, if_neg hne]
    · apply readCode_codeEscape hc rest
  head c rest := by
    unfold escapeChar
    split_ifs with hmarked htab hline hreturn hprintable
    · exact fun h => hq.ne_backslash (Option.some.inj h)
    · exact fun h => hq.ne_backslash (Option.some.inj h)
    · exact fun h => hq.ne_backslash (Option.some.inj h)
    · exact fun h => hq.ne_backslash (Option.some.inj h)
    · exact fun h => hmarked (.inl (Option.some.inj h))
    · rw [head?_codeEscape]
      exact fun h => hq.ne_backslash (Option.some.inj h)

theorem escapes_escapeByte
    (hq : IsQuote q) :
  Escapes q (escapeByte q) UInt8.toNat
  where
  read b rest := by
    have hb : b.toNat < 256 := b.toNat_lt
    unfold escapeByte
    split_ifs with hascii
    · have hcode : (Char.ofNat b.toNat).toNat = b.toNat := by
        rw [Char.ofNat, dif_pos (.inl (by omega))]
        rfl
      rw [(escapes_escapeChar hq).read, hcode]
    · apply readCode_codeEscape (by omega) rest
  head b rest := by
    unfold escapeByte
    split_ifs with hascii
    · apply (escapes_escapeChar hq).head _ rest
    · rw [head?_codeEscape]
      exact fun h => hq.ne_backslash (Option.some.inj h)

theorem escapes_escapePoint
    (hq : IsQuote q) :
  Escapes q (escapePoint q) Point.code
  where
  read p rest := by
    cases p with
    | char c => apply (escapes_escapeChar hq).read c rest
    | surrogate i =>
      apply readCode_codeEscape _ rest
      have := i.isLt
      simp only [Point.code, firstSurrogate, surrogateCount] at this ⊢
      omega
  head p rest := by
    cases p with
    | char c => apply (escapes_escapeChar hq).head c rest
    | surrogate i =>
      rw [escapePoint, head?_codeEscape]
      exact fun h => hq.ne_backslash (Option.some.inj h)

/-! ### Whole texts -/

/-- Escaped items are determined by what is written up to the closing quote. -/
theorem Escapes.flatMap_append_inj
    {α : Type} {f : α → List Char} {code : α → Nat} (hf : Escapes q f code)
    (hcode : Function.Injective code) {xs ys : List α} {r r' : List Char}
    (h : xs.flatMap f ++ q :: r = ys.flatMap f ++ q :: r') :
  xs = ys ∧ r = r'
  := by
  induction xs generalizing ys with
  | nil =>
    cases ys with
    | nil => exact ⟨rfl, List.tail_eq_of_cons_eq h⟩
    | cons y ys =>
      rw [List.flatMap_nil, List.flatMap_cons, List.append_assoc] at h
      exact absurd (congrArg List.head? h).symm (hf.head y _)
  | cons x xs ih =>
    cases ys with
    | nil =>
      rw [List.flatMap_nil, List.flatMap_cons, List.append_assoc] at h
      exact absurd (congrArg List.head? h) (hf.head x _)
    | cons y ys =>
      rw [List.flatMap_cons, List.flatMap_cons, List.append_assoc, List.append_assoc] at h
      have hread := congrArg readCode h
      rw [hf.read, hf.read] at hread
      obtain ⟨hitem, hrest⟩ := Prod.mk.inj (Option.some.inj hread)
      obtain ⟨rfl, hr⟩ := ih hrest
      exact ⟨congrArg (· :: xs) (hcode hitem), hr⟩

theorem toNat_injective :
  Function.Injective Char.toNat
  := fun _ _ h => Char.toNat_inj.mp h

/-- A character is no surrogate. -/
theorem code_injective :
  Function.Injective Point.code
  := by
  have hne (c : Char) (i : Fin surrogateCount) : c.toNat ≠ firstSurrogate + i := by
    have hc : c.toNat < 0xD800 ∨ 0xDFFF < c.toNat ∧ c.toNat < 0x110000 := c.valid
    have := i.isLt
    simp only [firstSurrogate, surrogateCount] at *
    omega
  intro p p' h
  cases p with
  | char c =>
    cases p' with
    | char c' => exact congrArg Point.char (toNat_injective h)
    | surrogate i => exact absurd h (hne c i)
  | surrogate i =>
    cases p' with
    | char c => exact absurd h.symm (hne c i)
    | surrogate i' => exact congrArg Point.surrogate (Fin.ext (Nat.add_left_cancel h))

/-- A quoted text that may be broken determines the text and what comes after it. -/
theorem quotedPointChars_append_inj
    {ps ps' : List Point} {r r' : List Char}
    (h : quotedPointChars ps ++ r = quotedPointChars ps' ++ r') :
  ps = ps' ∧ r = r'
  := by
  simp only [quotedPointChars, List.cons_append, List.append_assoc, List.nil_append] at h
  obtain ⟨hquote, hrest⟩ := List.cons.inj h
  rw [← hquote] at hrest
  exact (escapes_escapePoint (isQuote_quoteFor _)).flatMap_append_inj code_injective hrest

/-- A text that is not broken is written by its characters. -/
theorem quotedPointChars_points
    (s : String) :
  quotedPointChars (points s) = quotedChars s.toList
  := by
  simp only [quotedPointChars, quotedChars, points, List.map_map, List.flatMap_map]
  have hshown : Point.shown ∘ Point.char = id := rfl
  rw [hshown, List.map_id]
  rfl

/-- A quoted text determines the text and what comes after it. -/
theorem quotedChars_append_inj
    {s t r r' : List Char} (h : quotedChars s ++ r = quotedChars t ++ r') :
  s = t ∧ r = r'
  := by
  simp only [quotedChars, List.cons_append, List.append_assoc, List.nil_append] at h
  obtain ⟨hquote, hrest⟩ := List.cons.inj h
  rw [← hquote] at hrest
  exact (escapes_escapeChar (isQuote_quoteFor s)).flatMap_append_inj toNat_injective hrest

/-- The code points of a broken text tell it from others, and from texts that are not broken. -/
theorem broken_points_injective :
  Function.Injective Broken.points
  := by
  intro t t' h
  have hsplit (t : Broken) : splitPoints t.points = (t.before.toList, some (t.surrogate, t.rest)) := by
    have hchars (cs : List Char) : splitPoints (cs.map .char ++ .surrogate t.surrogate :: t.rest)
        = (cs, some (t.surrogate, t.rest)) := by
      induction cs with
      | nil => rfl
      | cons c cs ih => simp [splitPoints, ih]
    apply hchars
  have hpair := congrArg splitPoints h
  rw [hsplit, hsplit, Prod.mk.injEq, Option.some.injEq, Prod.mk.injEq, String.toList_inj] at hpair
  obtain ⟨hbefore, hsurrogate, hrest⟩ := hpair
  cases t
  cases t'
  simp_all

theorem points_ne_broken
    (s : String) (t : Broken) :
  points s ≠ t.points
  := by
  intro h
  have hmem : Point.surrogate t.surrogate ∈ points s := by
    rw [h]
    apply List.mem_append_right _ List.mem_cons_self
  simp [points] at hmem

/-- So does a quoted byte string. -/
theorem quotedByteChars_append_inj
    {a b : List UInt8} {r r' : List Char} (h : quotedByteChars a ++ r = quotedByteChars b ++ r') :
  a = b ∧ r = r'
  := by
  simp only [quotedByteChars, List.cons_append, List.append_assoc, List.nil_append] at h
  obtain ⟨hquote, hrest⟩ := List.cons.inj (List.cons.inj h).2
  rw [← hquote] at hrest
  exact (escapes_escapeByte (isQuote_quoteFor _)).flatMap_append_inj
    (fun _ _ hb => UInt8.toNat_inj.mp hb) hrest

end TradeGate.Text
