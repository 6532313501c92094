import TradeGate.Value

/-!
# Keys of calls

The key of a call is the written form of its arguments, followed by that of its named
arguments in the order of their names where there are any.
-/

namespace TradeGate

/-- The arguments of a call: those given by position and those given by name. -/
structure Call where
  args : List Value
  named : List (String × Value)
deriving Repr, Inhabited

namespace Call

/-- The argument that is given under a name. -/
def named? (c : Call) (name : String) : Option Value :=
  (c.named.find? fun f => f.1 == name).map Prod.snd

/-- The named arguments in the order of their names. -/
def sortedNamed (c : Call) : List (String × Value) :=
  c.named.mergeSort fun a b => !(b.1 < a.1)

/-- The written form of a named argument. -/
def namedForm (f : String × Value) : String :=
  "(" ++ Text.quoted f.1 ++ ", " ++ f.2.form ++ ")"

/-- The key of a call. -/
def key (c : Call) : String :=
  Value.tupleForm c.args
    ++ (if c.named.isEmpty then ""
      else "[" ++ Value.joined (c.sortedNamed.map namedForm) ++ "]")

end Call

end TradeGate
