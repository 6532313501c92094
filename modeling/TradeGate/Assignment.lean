import TradeGate.Fault

/-!
# Assignment to fields

Most records are fixed once they are read; the profiles of risks, the configurations
that hold them, and settings are open.  In an open record a field may be given any
value, which is not read again.  What a record tells about itself cannot be assigned.
A name with an underscore in front is no field and may be used in every record, but a
few such names belong to the record as a whole.
-/

namespace TradeGate

namespace Subject

/-- Whether the fields of a record stay as they were read. -/
def isFixed : Subject → Bool
  | profile => false
  | gateConfig => false
  | settings => false
  | _ => true

/-- The names under which a record tells what is computed from its fields, and which
fields it was given. -/
def computed : Subject → List String
  | profile => ["has_gates", "model_extra", "model_fields_set"]
  | _ => ["model_extra", "model_fields_set"]

/-- The value under a name with an underscore in front after the assignment of `v` to
it: the kind of a record does not change, and all its fields at once are themselves
named values. -/
def assignHidden (record : Subject) (name : String) (v : Value) : Except Fault Value :=
  if name = "__class__" then .error (.wrongKind "kind of record" v.kindName)
  else if name = "__dict__" then v.toFields.map .record
  else if name = "__fields_set__" ∨ name = "__weakref__" then
    .error (.noAttribute record.title name)
  else .ok v

/-- The value under a name after the assignment of `v` to it, in a record with the given
fields. -/
def assign (record : Subject) (fields : Fields) (name : String) (v : Value) :
    Except Fault Value :=
  if name.startsWith "_" then record.assignHidden name v
  else if record.isFixed then .error (.refused ⟨record, [⟨[name], .frozen⟩]⟩)
  else if record.computed.contains name then .error (.noAttribute record.title name)
  else if (Value.lookup name fields).isSome then .ok v
  else .error (.noField record name)

end Subject

end TradeGate
