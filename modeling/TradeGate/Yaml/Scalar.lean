import TradeGate.Yaml.Stamp
import TradeGate.Yaml.Tag
import TradeGate.Binary.Reader
import TradeGate.Text.Base64
import TradeGate.Text.Case
import TradeGate.Value.Arith
import TradeGate.Value.Whole
import TradeGate.Yaml.Token

/-!
# The values of scalars

The tag that the form of a scalar stands for, and the value of a scalar of a given tag.  A scalar whose tag
was given to it need not have the form of that tag; then its value may be refused.
-/

namespace TradeGate.Yaml

/-- A text without one break at its end. -/
def withoutLastBreak (s : String) : String :=
  if s.endsWith "\n" then (s.dropEnd 1).toString else s

/-- The tag that the form of a text stands for; one break at its end does not count, unless
the text is nothing else. -/
def Tag.ofForm (s : String) : Tag :=
  let t := withoutLastBreak s
  let cs := t.toList
  if s == "\n" then text
  else if nullWords.contains t then null
  else if trueWords.contains t || falseWords.contains t then bool
  else if isFloat cs then float
  else if isInteger cs then integer
  else if t == "<<" then merge
  else if t == "=" then default
  else if Stamp.isStamp cs then instant
  else text

namespace Scalar

/-- The whole number that a text denotes in a base. -/
def wholeIn (base : Nat) (cs : List Char) : Except Fault Int :=
  Whole.ofChars base cs (Text.quoted (.ofList cs))

/-- The float that a text denotes. -/
def floatOf (cs : List Char) : Except Fault Float :=
  match Binary.ofText? (.ofList cs) with
  | some x => .ok x
  | none => .error (.badValue ("could not convert string to float: " ++ Text.quoted (.ofList cs)))

/-- The text after a sign and whether the sign is negative; an empty text has none. -/
def signed (cs : List Char) : Except Fault (Bool × List Char) :=
  match cs with
  | [] => .error (.badIndex "string index out of range")
  | '-' :: rest => .ok (true, rest)
  | '+' :: rest => .ok (false, rest)
  | _ => .ok (false, cs)

/-- A whole number in one of its notations. -/
def integer (s : String) : Except Fault Int := do
  let (negative, body) ← signed (s.toList.filter (· != '_'))
  let n ←
    match body with
    | [] => .error (.badIndex "string index out of range")
    | ['0'] => .ok 0
    | '0' :: 'b' :: ds => wholeIn 2 ds
    | '0' :: 'x' :: ds => wholeIn 16 ds
    | '0' :: _ => wholeIn 8 body
    | _ =>
      if body.contains ':' then
        (Tag.colonParts body).foldlM (fun n part => do return n * 60 + (← wholeIn 10 part)) 0
      else wholeIn 10 body
  return if negative then -n else n

/-- A float in one of its notations. -/
def float (s : String) : Except Fault Float := do
  let (negative, body) ← signed (Text.lower (.ofList (s.toList.filter (· != '_')))).toList
  let sign (x : Float) : Float := if negative then -1 * x else 1 * x
  if body == ".inf".toList then return sign (1.0 / 0.0)
  else if body == ".nan".toList then return 0.0 / 0.0
  else if body.contains ':' then
    let parts ← (Tag.colonParts body).mapM floatOf
    let (x, _) ← parts.reverse.foldlM (fun (x, base) d => do
      return (x + d * (← Value.wholeToFloat base), base * 60)) (0.0, 1)
    return sign x
  else return sign (← floatOf body)

/-- A truth value by its word in any case. -/
def truth (s : String) : Except Fault Bool :=
  let w := Text.lower s
  if Tag.trueWords.contains w then .ok true
  else if Tag.falseWords.contains w then .ok false
  else .error (.unknownKey (some (.text w)))

/-- An instant. -/
def instant (s : String) : Except Fault Instant :=
  match Stamp.ofText? (withoutLastBreak s).toList with
  | some t => t.instant
  | none => .error (.noAttribute "NoneType" "groupdict")

/-- Bytes. -/
def bytes (s : String) : Except Fault (List UInt8) :=
  match Text.base64? s.toList with
  | some bs => .ok bs
  | none => .error .malformed

/-- The value of a scalar of a given tag. -/
def value (t : Tag) (s : String) (form : ScalarForm) : Except Fault Value :=
  match t, form with
  | .null, _ => .ok .null
  | .bool, _ => (truth s).map .bool
  | .integer, _ => (integer s).map .int
  | .float, _ => (float s).map .float
  | .instant, _ => (instant s).map .instant
  | .binary, .broken _ => .error .malformed
  | .binary, _ => (bytes s).map .bytes
  | .text, .broken t => .ok (.broken t)
  | .text, _ => .ok (.text s)
  | _, _ => .error .malformed

end Scalar

end TradeGate.Yaml
