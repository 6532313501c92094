import TradeGate.Instant.Reader
import TradeGate.Value

/-!
# Reading records from dynamic fields

A record is read from named dynamic values.  Every field has a reader, which may accept
several kinds of values, and a reading collects the issues of all fields before it gives
up.  `Reading` is therefore applicative and not monadic: no field's reader depends on
another field.
-/

namespace TradeGate

/-- Why a value is refused. -/
inductive Flaw where
  | missing
  | unknownChoice
  | notText
  | notUnicode
  | notDecimal
  | malformedDecimal
  | notFinite
  | notInstant
  | malformedInstant
  | notTruth
  | malformedTruth
  | notInteger
  | malformedInteger
  | oversizedInteger
  | fractionalInteger
  | notList
  | notRecord
  | invalid (message : String)
  | frozen
deriving DecidableEq, Repr

/-- The name under which a flaw is reported. -/
def Flaw.name : Flaw → String
  | missing => "missing"
  | unknownChoice => "enum"
  | notText => "string_type"
  | notUnicode => "string_unicode"
  | notDecimal => "decimal_type"
  | malformedDecimal => "decimal_parsing"
  | notFinite => "finite_number"
  | notInstant => "datetime_type"
  | malformedInstant => "datetime_parsing"
  | notTruth => "bool_type"
  | malformedTruth => "bool_parsing"
  | notInteger => "int_type"
  | malformedInteger => "int_parsing"
  | oversizedInteger => "int_parsing_size"
  | fractionalInteger => "int_from_float"
  | notList => "list_type"
  | notRecord => "model_type"
  | invalid _ => "value_error"
  | frozen => "frozen_instance"

/-- A refused value and the names and positions that lead to it. -/
structure Issue where
  path : List String
  flaw : Flaw
deriving DecidableEq, Repr

/-- The text of an issue. -/
def Issue.text (i : Issue) : String :=
  String.intercalate "." i.path ++ ": " ++ i.flaw.name
    ++ (match i.flaw with
      | .invalid message => ": Value error, " ++ message
      | _ => "")

/-- The records that are read from dynamic fields. -/
inductive Subject where
  | tick
  | signal
  | openPosition
  | candle
  | decision
  | profile
  | gateConfig
  | settings
  | inspection
deriving DecidableEq, Repr

/-- The name under which a record is reported. -/
def Subject.title : Subject → String
  | tick => "Tick"
  | signal => "PendingSignal"
  | openPosition => "ActivePosition"
  | candle => "Candle"
  | decision => "Decision"
  | profile => "RiskProfileConfig"
  | gateConfig => "RiskGateConfig"
  | settings => "Settings"
  | inspection => "RiskCheckPayload"

/-- The issues for which a record was refused. -/
structure Refusal where
  subject : Subject
  issues : List Issue
deriving DecidableEq, Repr

/-- The text of a refusal: the record and its issues in order. -/
def Refusal.text (r : Refusal) : String :=
  r.subject.title ++ ": " ++ String.intercalate "; " (r.issues.map Issue.text)

/-- The outcome of reading: a value, or at least one issue. -/
inductive Reading (α : Type) where
  | done (a : α)
  | refused (first : Issue) (rest : List Issue)

namespace Reading

/-- All issues of a reading. -/
def issues {α : Type} : Reading α → List Issue
  | done _ => []
  | refused i is => i :: is

def map {α β : Type} (f : α → β) : Reading α → Reading β
  | done a => done (f a)
  | refused i is => refused i is

/-- Both readings, the issues of the first before those of the second. -/
def zipWith {α β γ : Type} (f : α → β → γ) : Reading α → Reading β → Reading γ
  | done a, done b => done (f a b)
  | done _, refused i is => refused i is
  | refused i is, r => refused i (is ++ r.issues)

instance : Functor Reading where
  map := map

instance : Applicative Reading where
  pure := done
  seq f x := zipWith (fun g a => g a) f (x ())

@[simp]
theorem issues_zipWith
    {α β γ : Type} (f : α → β → γ) (x : Reading α) (y : Reading β) :
  (zipWith f x y).issues = x.issues ++ y.issues
  := by
  cases x <;> cases y <;> simp [zipWith, issues]

/-- The reading that is refused for one flaw. -/
def refuse {α : Type} (f : Flaw) : Reading α :=
  refused ⟨[], f⟩ []

/-- The same reading below a name or position. -/
def below {α : Type} (name : String) : Reading α → Reading α
  | done a => done a
  | refused i is =>
    refused ⟨name :: i.path, i.flaw⟩ (is.map fun j => ⟨name :: j.path, j.flaw⟩)

/-- A flaw found in the value that was read. -/
def check {α : Type} (flaw? : α → Option Flaw) : Reading α → Reading α
  | done a =>
    match flaw? a with
    | some f => refuse f
    | none => done a
  | r => r

/-- The value, or the refusal of the record. -/
def finish {α : Type} (subject : Subject) : Reading α → Except Refusal α
  | done a => .ok a
  | refused i is => .error ⟨subject, i :: is⟩

/-- One reading for each item, below the item's position. -/
def items {α : Type} (read : Value → Reading α) : Nat → List Value → Reading (List α)
  | _, [] => done []
  | k, v :: vs => zipWith (· :: ·) ((read v).below (toString k)) (items read (k + 1) vs)

end Reading

/-- Named dynamic values. -/
abbrev Fields := List (String × Value)

namespace Fields

/-- The value of an entry that may be absent. -/
def entry {α : Type} (f : α → Value) (a : Option α) : Value :=
  a.elim .null f

/-- A field that must be present. -/
def required {α : Type} (fields : Fields) (name : String) (read : Value → Reading α) :
    Reading α :=
  (match Value.lookup name fields with
    | some v => read v
    | none => .refuse .missing).below name

/-- A field that may be left out. -/
def optional {α : Type} (fields : Fields) (name : String) (default : α)
    (read : Value → Reading α) : Reading α :=
  match Value.lookup name fields with
  | some v => (read v).below name
  | none => .done default

end Fields

namespace Value

/-- Nothing, or what the reader makes of the value. -/
def readNullable {α : Type} (read : Value → Reading α) : Value → Reading (Option α)
  | null => .done none
  | v => (read v).map some

/-- The text of a byte string in UTF-8. -/
def utf8? (bs : List UInt8) : Option String :=
  String.fromUTF8? ⟨bs.toArray⟩

/-- The text of bytes that are all in the range of ASCII. -/
def asciiText? (bs : List UInt8) : Option String :=
  if bs.all (· < 128) then utf8? bs else none

/-- A text, or bytes that encode one. -/
def readText : Value → Reading String
  | text s => .done s
  | broken _ => .refuse .notUnicode
  | bytes bs =>
    match utf8? bs with
    | some s => .done s
    | none => .refuse .notUnicode
  | _ => .refuse .notText

/-- A decimal that is not a special value. -/
def finiteDecimal (d : Decimal) : Reading Decimal :=
  if d.isFinite then .done d else .refuse .notFinite

/-- A finite decimal: a number, where a float stands for its shortest digits, or the
text of one. -/
def readDecimal : Value → Reading Decimal
  | decimal d => finiteDecimal d
  | int n => finiteDecimal (.ofInt n)
  | float x =>
    match Decimal.ofText (Binary.text x) with
    | .ok d => finiteDecimal d
    | .error _ => .refuse .malformedDecimal
  | text s =>
    match Decimal.ofText s with
    | .ok d => finiteDecimal d
    | .error _ => .refuse .malformedDecimal
  | broken _ => .refuse .malformedDecimal
  | _ => .refuse .notDecimal

/-- The words for the truth values. -/
def truthWord? (s : String) : Option Bool :=
  let w := s.map Char.toLower
  if ["0", "off", "f", "false", "n", "no"].contains w then some false
  else if ["1", "on", "t", "true", "y", "yes"].contains w then some true
  else none

/-- A whole number behind a number, nothing where it has a fraction or is not finite. -/
def wholeOfDecimal? : Decimal → Option Int
  | .finite s c e =>
    if c = 0 then some 0
    else if 5000 < Decimal.leading c e then none
    else if 0 ≤ e then some (Decimal.signed s (c * tenTo e.toNat))
    else if Decimal.leading c e < 0 then none
    else if c % tenTo (-e).toNat = 0 then some (Decimal.signed s (c / tenTo (-e).toNat))
    else none
  | _ => none

/-- Whether a whole number fits into 64 bits with a sign. -/
def isMachineInt (n : Int) : Bool :=
  -(twoTo 63 : Int) ≤ n && n < twoTo 63

/-- A truth value from a whole number; one of more than 64 bits does not even count as a
candidate. -/
def truthOfInt (n : Int) : Reading Bool :=
  if n = 0 then .done false
  else if n = 1 then .done true
  else if isMachineInt n then .refuse .malformedTruth
  else .refuse .notTruth

/-- A whole number from a float, which must be whole and lie strictly between the two
ends of the range of 64 bits. -/
def wholeOfFloat (x : Float) : Reading Int :=
  match Binary.floor? x with
  | some n =>
    if !Binary.isWhole x then .refuse .fractionalInteger
    else if n.natAbs < twoTo 63 then .done n
    else .refuse .oversizedInteger
  | none => .refuse .notFinite

/-- A truth value from a float, which must be a whole number. -/
def truthOfFloat (x : Float) : Reading Bool :=
  match wholeOfFloat x with
  | .done n => truthOfInt n
  | .refused .. => .refuse .notTruth

/-- A truth value, a number that is 0 or 1, or a word for one; a decimal counts as the
float nearest to it. -/
def readTruth : Value → Reading Bool
  | bool b => .done b
  | int n => truthOfInt n
  | float x => truthOfFloat x
  | decimal d =>
    match Binary.ofDecimal? d with
    | some x => truthOfFloat x
    | none => .refuse .notTruth
  | text s =>
    match truthWord? s with
    | some b => .done b
    | none => .refuse .malformedTruth
  | broken _ => .refuse .notUnicode
  | bytes bs =>
    match (utf8? bs).bind truthWord? with
    | some b => .done b
    | none => .refuse .malformedTruth
  | _ => .refuse .notTruth

/-- The number after zeros and underscores at the front, which may begin with a minus
sign there; a number of nothing but zeros keeps its last character. -/
def withoutLeadingZeros? (cs : List Char) : Option (List Char) :=
  match cs with
  | '0' :: rest =>
    match rest.dropWhile fun c => c == '0' || c == '_' with
    | [] => some (cs.drop (cs.length - 1))
    | '.' :: more => some (cs.drop (cs.length - more.length - 2))
    | c :: more => if c.isDigit || c == '-' then some (c :: more) else none
  | c :: _ => if c.isDigit || c == '-' then some cs else none
  | [] => none

/-- The digits before a point that only zeros follow, one at least. -/
def withoutZeroFraction (cs : List Char) : List Char :=
  let whole := cs.takeWhile (· != '.')
  match cs.dropWhile (· != '.') with
  | _ :: zeros => if !zeros.isEmpty && zeros.all (· == '0') then whole else cs
  | [] => cs

/-- Whether two underscores stand side by side. -/
def hasDoubleUnderscore : List Char → Bool
  | '_' :: '_' :: _ => true
  | _ :: cs => hasDoubleUnderscore cs
  | [] => false

/-- The digits without single underscores between them. -/
def withoutUnderscores (cs : List Char) : List Char :=
  if cs.head? == some '_' || cs.getLast? == some '_' || hasDoubleUnderscore cs then cs
  else cs.filter (· ≠ '_')

/-- The digits of a whole number behind a text, with the sign; blanks around it, a plus
sign, zeros in front, single underscores and a fraction of zeros are allowed. -/
def wholeDigits? (s : String) : Option (Bool × List Char) := do
  let cs := Text.trim Text.isWhiteSpace s.toList
  let cs ← match cs with
    | '+' :: '-' :: _ => none
    | '+' :: rest => some rest
    | rest => some rest
  let cs := withoutUnderscores (withoutZeroFraction (← withoutLeadingZeros? cs))
  match cs with
  | '-' :: ds => some (true, ds)
  | ds => some (false, ds)

/-- The greatest number of digits of a whole number in a text. -/
def maxWholeDigits : Nat := 4300

/-- The whole number that a text denotes. -/
def wholeOfText (s : String) : Reading Int :=
  match (wholeDigits? s).bind fun (negative, ds) => (Text.natural? ds).map fun n => (negative, ds, n) with
  | some (negative, ds, n) =>
    if ds.length ≤ maxWholeDigits then .done (Decimal.signed negative n)
    else .refuse .oversizedInteger
  | none => .refuse .malformedInteger

/-- A whole number, a truth value as 0 or 1, or the text of a whole number. -/
def readInteger : Value → Reading Int
  | int n => .done n
  | bool b => .done (if b then 1 else 0)
  | float x => wholeOfFloat x
  | decimal d =>
    if d.isFinite then
      match wholeOfDecimal? d with
      | some n => .done n
      | none => .refuse .fractionalInteger
    else .refuse .notFinite
  | text s => wholeOfText s
  | broken _ => .refuse .notUnicode
  | bytes bs =>
    match utf8? bs with
    | some s => wholeOfText s
    | none => .refuse .malformedInteger
  | _ => .refuse .notInteger

/-- An instant, the text of one, or a number of seconds or milliseconds. -/
def readInstant : Value → Reading Instant
  | instant t => .done t
  | text s => ofOption (Instant.ofText? s)
  | broken _ => .refuse .notUnicode
  | bytes bs => ofOption ((utf8? bs).bind Instant.ofText?)
  | int n => ofOption (Instant.ofInt? n)
  | float x => ofOption (Instant.ofFloat? x)
  | decimal d =>
    match Binary.ofDecimal? d with
    | some x => ofOption (Instant.ofFloat? x)
    | none => .refuse .notInstant
  | _ => .refuse .notInstant
where
  /-- An instant, refused as malformed where there is none. -/
  ofOption : Option Instant → Reading Instant
    | some t => .done t
    | none => .refuse .malformedInstant

/-- One of several named choices, exactly as it is written. -/
def readChoice {α : Type} (choice? : String → Option α) (v : Value) : Reading α :=
  match readText v with
  | .done s =>
    match choice? s with
    | some a => .done a
    | none => .refuse .unknownChoice
  | .refused .. => .refuse .unknownChoice

/-- A list of items. -/
def readList {α : Type} (read : Value → Reading α) : Value → Reading (List α)
  | list vs => .items read 0 vs
  | _ => .refuse .notList

/-- A record. -/
def readRecord {α : Type} (read : Fields → Reading α) : Value → Reading α
  | record fields => read fields
  | _ => .refuse .notRecord

end Value

end TradeGate
