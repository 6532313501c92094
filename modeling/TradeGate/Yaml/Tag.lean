/-!
# Tags

A tag tells what a node stands for.  Nodes with a tag of their own apart, a plain scalar
has the tag that its form gives it: words for nothing and for truth values, whole
numbers and floats in several notations, and instants.  Every other scalar is a text.
-/

namespace TradeGate.Yaml

/-- What a node stands for. -/
inductive Tag where
  | null
  | bool
  | integer
  | float
  | text
  | instant
  | binary
  | sequence
  | mapping
  | keys
  | orderedMapping
  | pairs
  | merge
  | default
  | other
deriving DecidableEq, Repr

namespace Tag

/-- The begin of the names of the standard tags. -/
def standard : String := "tag:yaml.org,2002:"

/-- The tag of a given name. -/
def ofName (s : String) : Tag :=
  let is (name : String) : Bool := s == standard ++ name
  if is "null" then null
  else if is "bool" then bool
  else if is "int" then integer
  else if is "float" then float
  else if is "str" then text
  else if is "timestamp" then instant
  else if is "binary" then binary
  else if is "seq" then sequence
  else if is "map" then mapping
  else if is "set" then keys
  else if is "omap" then orderedMapping
  else if is "pairs" then pairs
  else if is "merge" then merge
  else if is "value" then default
  else other

/-- Whether a tag stands for a collection. -/
def isCollection : Tag → Bool
  | sequence => true
  | mapping => true
  | keys => true
  | orderedMapping => true
  | pairs => true
  | _ => false

/-! ### Forms of plain scalars -/

/-- A decimal digit. -/
def isDigit (c : Char) : Bool := '0' ≤ c && c ≤ '9'

/-- A digit or an underscore. -/
def isDigitOrGap (c : Char) : Bool := isDigit c || c == '_'

/-- Whether some characters are of a class and there is at least one. -/
def allOf (p : Char → Bool) (cs : List Char) : Bool := !cs.isEmpty && cs.all p

/-- The text without a sign in front. -/
def unsigned (cs : List Char) : List Char :=
  match cs with
  | '+' :: rest => rest
  | '-' :: rest => rest
  | _ => cs

/-- The parts of a text between colons. -/
def colonParts (cs : List Char) : List (List Char) := cs.splitOn ':'

/-- Whether a part counts sixtieths: it is less than sixty. -/
def isSixtieth : List Char → Bool
  | [a] => isDigit a
  | [a, b] => '0' ≤ a && a ≤ '5' && isDigit b
  | _ => false

/-- Whether a text has the form of a whole number: binary, octal, hexadecimal, decimal,
or with sixtieths. -/
def isInteger (cs : List Char) : Bool :=
  match unsigned cs with
  | '0' :: 'b' :: ds => allOf (fun c => c == '0' || c == '1' || c == '_') ds
  | '0' :: 'x' :: ds =>
    allOf (fun c => isDigitOrGap c || ('a' ≤ c && c ≤ 'f') || ('A' ≤ c && c ≤ 'F')) ds
  | '0' :: ds => ds.all fun c => ('0' ≤ c && c ≤ '7') || c == '_'
  | c :: ds =>
    isDigit c
      && (match colonParts ds with
        | first :: sixtieths => first.all isDigitOrGap && sixtieths.all isSixtieth
        | [] => true)
  | [] => false

/-- Whether a text is empty or an exponent with a sign. -/
def isExponent : List Char → Bool
  | [] => true
  | e :: sign :: ds => (e == 'e' || e == 'E') && (sign == '+' || sign == '-') && allOf isDigit ds
  | _ => false

/-- Whether a text after a point is a fraction with an optional exponent. -/
def isFraction (cs : List Char) : Bool :=
  isExponent (cs.dropWhile isDigitOrGap)

/-- Whether a text has the form of a float: with a point, with sixtieths and a point, or
a word. -/
def isFloat (cs : List Char) : Bool :=
  let words := ["inf", "Inf", "INF"].map String.toList
  match cs, unsigned cs with
  | '.' :: fraction, _ =>
    words.contains fraction || (["nan", "NaN", "NAN"].map String.toList).contains fraction
      || (fraction.head?.any isDigit && isFraction fraction)
  | _, '.' :: fraction => words.contains fraction
  | _, body =>
    let whole := body.takeWhile (· != '.')
    match body.dropWhile (· != '.') with
    | _ :: fraction =>
      whole.head?.any isDigit
        && (match colonParts whole with
          | first :: [] => first.all isDigitOrGap && isFraction fraction
          | first :: sixtieths =>
            first.all isDigitOrGap && sixtieths.all isSixtieth && fraction.all isDigitOrGap
          | [] => false)
    | [] => false

/-- Words for nothing. -/
def nullWords : List String := ["~", "null", "Null", "NULL", ""]

/-- Words for a truth value. -/
def trueWords : List String :=
  ["yes", "Yes", "YES", "true", "True", "TRUE", "on", "On", "ON"]

/-- Words for the other truth value. -/
def falseWords : List String :=
  ["no", "No", "NO", "false", "False", "FALSE", "off", "Off", "OFF"]

end Tag

end TradeGate.Yaml
