import TradeGate.Binary.Layout
import TradeGate.Instant
import TradeGate.Text.Quoted

/-!
# Dynamic values

A field, a call argument or the answer of a callback may be of any kind: nothing, a
truth value, a number of one of three kinds, a text, bytes, an instant, a list, or a
record with named fields in order.  Values have a truth, an equality that compares the
kinds of numbers exactly, and two written forms.
-/

namespace TradeGate

/-- A dynamic value. -/
inductive Value where
  | null
  | bool (b : Bool)
  | int (n : Int)
  | float (x : Float)
  | decimal (d : Decimal)
  | text (s : String)
  /-- A text of which some code points are no characters. -/
  | broken (t : Text.Broken)
  | bytes (bs : List UInt8)
  | instant (t : Instant)
  | list (items : List Value)
  | record (fields : List (String × Value))
deriving Repr, Inhabited

namespace Value

/-- The name of a value's kind. -/
def kindName : Value → String
  | null => "NoneType"
  | bool _ => "bool"
  | int _ => "int"
  | float _ => "float"
  | decimal _ => "Decimal"
  | text _ => "str"
  | broken _ => "str"
  | bytes _ => "bytes"
  | instant _ => "datetime"
  | list _ => "list"
  | record _ => "dict"

/-- Whether a value counts as true: nothing, zeros and empty values do not. -/
def truth : Value → Bool
  | null => false
  | bool b => b
  | int n => n != 0
  | float x => !(x == 0.0)
  | decimal d => !d.isZero
  | text s => !s.isEmpty
  | broken _ => true
  | bytes bs => !bs.isEmpty
  | instant _ => true
  | list items => !items.isEmpty
  | record fields => !fields.isEmpty

/-- The exact number behind a number of any kind; truth values count as 0 and 1. -/
def number? : Value → Option Decimal
  | bool b => some (.ofInt (if b then 1 else 0))
  | int n => some (.ofInt n)
  | float x => some (Binary.toDecimal x)
  | decimal d => some d
  | _ => none

/-- Whether a value can serve as a key: lists, records and signaling not-a-numbers
cannot. -/
def isKey : Value → Bool
  | list _ => false
  | record _ => false
  | decimal (.nan _ true _) => false
  | _ => true

/-- The value of a named field, the first one of that name. -/
def lookup (name : String) : List (String × Value) → Option Value
  | [] => none
  | (k, v) :: rest => if k = name then some v else lookup name rest

mutual

/-- Whether two values are equal: numbers of all kinds compare as numbers, records
compare without regard to the order of their fields.  A signaling not-a-number stops the
comparison with a number. -/
def same (x y : Value) : Except Decimal.Trap Bool :=
  match x, y with
  | null, null => .ok true
  | text s, text t => .ok (s == t)
  | bytes a, bytes b => .ok (a == b)
  | instant s, instant t => .ok (s.same t)
  | list a, list b => if a.length = b.length then sameItems a b else .ok false
  | record a, record b => if a.length = b.length then sameFields a b else .ok false
  | x, y =>
    match x.number?, y.number? with
    | some a, some b => a.same b
    | _, _ => .ok false

def sameItems (a b : List Value) : Except Decimal.Trap Bool :=
  match a, b with
  | [], [] => .ok true
  | x :: xs, y :: ys => (same x y).bind fun equal => if equal then sameItems xs ys else .ok false
  | _, _ => .ok false

/-- Whether every field of `a` has the same value in `b`. -/
def sameFields (a b : List (String × Value)) : Except Decimal.Trap Bool :=
  match a with
  | [] => .ok true
  | (k, x) :: rest =>
    match lookup k b with
    | some y => (same x y).bind fun equal => if equal then sameFields rest b else .ok false
    | none => .ok false

end

/-! ### Written forms -/

/-- The text between the brackets of a list: items separated by a comma and a space. -/
def joined (items : List String) : String :=
  String.intercalate ", " items

/-- An instant written by its parts. -/
def instantForm (t : Instant) : String :=
  let numbers : List Nat := [t.year, t.month, t.day, t.hour, t.minute]
    ++ (if t.second = 0 ∧ t.micro = 0 then [] else [t.second])
    ++ (if t.micro = 0 then [] else [t.micro])
  let zone :=
    match t.offset with
    | none => []
    | some 0 => ["tzinfo=datetime.timezone.utc"]
    | some s =>
      let span :=
        if s < 0 then "days=-1, seconds=" ++ toString (s + 86400) else "seconds=" ++ toString s
      ["tzinfo=datetime.timezone(datetime.timedelta(" ++ span ++ "))"]
  "datetime.datetime(" ++ joined (numbers.map toString ++ zone) ++ ")"

mutual

/-- The form of a value that tells its kind: texts are quoted, decimals are marked. -/
def form : Value → String
  | null => "None"
  | bool b => if b then "True" else "False"
  | int n => toString n
  | float x => Binary.text x
  | decimal d => "Decimal('" ++ d.text ++ "')"
  | text s => Text.quoted s
  | broken t => Text.quotedBroken t
  | bytes bs => Text.quotedBytes bs
  | instant t => instantForm t
  | list items => "[" ++ joined (forms items) ++ "]"
  | record fields => "\x7b" ++ joined (fieldForms fields) ++ "\x7d"

def forms : List Value → List String
  | [] => []
  | v :: rest => form v :: forms rest

def fieldForms : List (String × Value) → List String
  | [] => []
  | (k, v) :: rest => (Text.quoted k ++ ": " ++ form v) :: fieldForms rest

end

/-- The form of a value for a reader: texts and decimals as they are, but a broken text only as
it is shown. -/
def plain : Value → String
  | text s => s
  | broken t => t.shown
  | decimal d => d.text
  | instant t => t.textWith " " Instant.offsetText
  | v => v.form

/-- The form of a fixed sequence of values; a single one is followed by a comma. -/
def tupleForm : List Value → String
  | [v] => "(" ++ form v ++ ",)"
  | items => "(" ++ joined (forms items) ++ ")"

theorem forms_eq_map
    (items : List Value) :
  forms items = items.map form
  := by
  induction items with
  | nil => rfl
  | cons v rest ih => simp [forms, ih]

end Value

end TradeGate
