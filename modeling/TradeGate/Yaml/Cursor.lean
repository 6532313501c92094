import TradeGate.Fault

/-!
# Cursors on a text

A cursor is a place in a text: the characters from there on, the number of characters
before, and the line and column.  A lexer is an action on a cursor that may find the text
malformed.
-/

namespace TradeGate.Yaml

/-- A place in a text. -/
structure Cursor where
  rest : List Char
  index : Nat
  line : Nat
  column : Nat
deriving Repr, Inhabited

/-- Whether a character ends a line. -/
def isBreak (c : Char) : Bool :=
  c == '\n' || c == '\r' || c == '\x85' || c == '\u2028' || c == '\u2029'

/-- Whether a line ends here: at a break or at the end of the text. -/
def endsLine (c : Option Char) : Bool := c.all isBreak

/-- Whether a field ends here: at a space or where a line ends. -/
def endsField (c : Option Char) : Bool := c.all fun d => d == ' ' || isBreak d

/-- Whether a word ends here: at a space, a tab or where a line ends. -/
def endsWord (c : Option Char) : Bool := c.all fun d => d == ' ' || d == '\t' || isBreak d

/-- Whether a character may stand in a name. -/
def isNameChar (c : Char) : Bool :=
  ('0' ≤ c && c ≤ '9') || ('A' ≤ c && c ≤ 'Z') || ('a' ≤ c && c ≤ 'z') || c == '-' || c == '_'

/-- Whether a character may stand in a text at all. -/
def isAllowed (c : Char) : Bool :=
  let n := c.toNat
  n == 9 || n == 10 || n == 13 || (0x20 ≤ n && n ≤ 0x7E) || n == 0x85
    || (0xA0 ≤ n && n ≤ 0xD7FF) || (0xE000 ≤ n && n ≤ 0xFFFD) || 0x10000 ≤ n

/-- The mark that tells the order of bytes; it takes no column. -/
def byteOrderMark : Char := '\ufeff'

namespace Cursor

/-- The begin of a text. -/
def start (cs : List Char) : Cursor := ⟨cs, 0, 0, 0⟩

/-- The character some places ahead. -/
def peek (c : Cursor) (ahead : Nat) : Option Char := c.rest[ahead]?

/-- The next place. -/
def step (c : Cursor) : Cursor :=
  match c.rest with
  | [] => c
  | d :: cs =>
    if isBreak d && !(d == '\r' && cs.head? == some '\n') then ⟨cs, c.index + 1, c.line + 1, 0⟩
    else if d == byteOrderMark then ⟨cs, c.index + 1, c.line, c.column⟩
    else ⟨cs, c.index + 1, c.line, c.column + 1⟩

/-- The place some characters further on. -/
def advance : Nat → Cursor → Cursor
  | 0, c => c
  | n + 1, c => c.step.advance n

/-- Whether three equal marks and the end of a word stand here. -/
def atMarker (mark : Char) (c : Cursor) : Bool :=
  c.rest.take 3 == [mark, mark, mark] && endsWord (c.peek 3)

/-- Whether the begin or the end of a document is marked here. -/
def atSeparator (c : Cursor) : Bool :=
  c.atMarker '-' || c.atMarker '.'

end Cursor

/-- An action on a cursor. -/
abbrev Lex (α : Type) := StateT Cursor (Except Fault) α

namespace Lex

/-- The text is malformed. -/
def fail {α : Type} : Lex α := throw .malformed

/-- The text must be as is asked for. -/
def require (b : Bool) : Lex Unit := if b then pure () else fail

/-- The character some places ahead. -/
def peek (ahead : Nat) : Lex (Option Char) := do return (← get).peek ahead

/-- Passes over some characters. -/
def skip (n : Nat) : Lex Unit := modify (Cursor.advance n)

/-- Takes some characters. -/
def take (n : Nat) : Lex (List Char) := do
  let cs := (← get).rest.take n
  skip n
  return cs

/-- Takes the characters of a class. -/
def span (p : Char → Bool) : Lex (List Char) := do
  take ((← get).rest.takeWhile p).length

/-- Passes over spaces. -/
def skipSpaces : Lex Unit := discard (span (· == ' '))

/-- Passes over a comment, if one begins here. -/
def skipComment : Lex Unit := do
  if (← peek 0) == some '#' then discard (span (!isBreak ·))

/-- Passes over a break, if there is one, and tells the break that it stands for. -/
def lineBreak : Lex (List Char) := do
  let c ← get
  match c.rest with
  | '\r' :: '\n' :: _ => do
    skip 2
    return ['\n']
  | d :: _ =>
    if !isBreak d then return []
    else do
      skip 1
      return [if d == '\u2028' || d == '\u2029' then d else '\n']
  | [] => return []

/-- Passes over spaces and a comment up to the end of the line, which must follow. -/
def restOfLine : Lex Unit := do
  skipSpaces
  skipComment
  require (endsLine (← peek 0))
  discard lineBreak

end Lex

end TradeGate.Yaml
