import TradeGate.Text.Point

/-!
# Tokens of a text

The tokens that a text consists of.  Blocks are marked by their indentation; in the
tokens they have a begin and an end of their own.
-/

namespace TradeGate.Yaml

/-- What a directive says: the version of the format, an abbreviation of tags, or
something that does not count. -/
inductive Directive where
  | version (major : Nat)
  | abbreviation (handle expansion : String)
  | other
deriving Repr, DecidableEq

/-- How a scalar is written: as it is, or in quotes or as a block.  A scalar in quotes may
be broken: some of its code points are no characters. -/
inductive ScalarForm where
  | plain
  | marked
  | broken (t : Text.Broken)
deriving Repr, DecidableEq

/-- A token. -/
inductive Token where
  | directive (d : Directive)
  | documentStart
  | documentEnd
  | blockSequence
  | blockMapping
  | blockEnd
  | flowSequence
  | flowSequenceEnd
  | flowMapping
  | flowMappingEnd
  | flowEntry
  | blockEntry
  | key
  | value
  | alias (name : String)
  | anchor (name : String)
  /-- A tag as it is written: after a handle, or whole. -/
  | tag (handle : Option String) (suffix : String)
  /-- A scalar with its text, as it is shown if it is broken. -/
  | scalar (text : String) (form : ScalarForm)
deriving Repr, DecidableEq

end TradeGate.Yaml
