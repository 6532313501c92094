import TradeGate.Yaml.Lexeme

/-!
# From text to tokens

The lexer keeps the columns of the open blocks, the number of open brackets, and for
each level of brackets the place of a token that will turn out to begin a key if a colon
follows on the same line.  A key in a new column opens a block, and a smaller column
closes the blocks that are further to the right.  Tokens are taken one by one, only as far
as the next one needs: a fault in the text comes up where the reader gets to it.
-/

namespace TradeGate.Yaml

/-- A token that may begin a key: its number among the tokens, its place, and whether
it must be a key because a block of its column is open. -/
structure KeyPlace where
  number : Nat
  index : Nat
  line : Nat
  column : Nat
  required : Bool
deriving Repr

/-- The state of the lexer. -/
structure Lexer where
  cursor : Cursor
  /-- The tokens so far. -/
  tokens : Array Token
  /-- The number of open brackets. -/
  depth : Nat
  /-- The column of the innermost open block, -1 where none is open. -/
  indent : Int
  /-- The columns of the blocks around it, the innermost first. -/
  outer : List Int
  /-- Whether a key may begin here. -/
  keyAllowed : Bool
  /-- Tokens that may begin a key, by the number of open brackets. -/
  keys : List (Nat × KeyPlace)
  /-- Whether the text is at its end. -/
  ended : Bool
deriving Repr

/-- An action on the lexer. -/
abbrev Lexing (α : Type) := StateT Lexer (Except Fault) α

namespace Lexer

/-- The lexer at the begin of a text. -/
def start (cs : List Char) : Lexer :=
  ⟨.start cs, #[], 0, -1, [], true, [], false⟩

/-- Runs an action on the cursor. -/
def lex {α : Type} (a : Lex α) : Lexing α := do
  let l ← get
  let (x, c) ← a.run l.cursor
  set { l with cursor := c }
  return x

def fail {α : Type} : Lexing α := throw .malformed

def push (t : Token) : Lexing Unit :=
  modify fun l => { l with tokens := l.tokens.push t }

/-- Adds a token of some characters. -/
def pushMark (t : Token) (length : Nat) : Lexing Unit := do
  lex (Lex.skip length)
  push t

def allowKey (b : Bool) : Lexing Unit :=
  modify fun l => { l with keyAllowed := b }

/-! ### Keys -/

/-- Drops the key places that were passed: a key stands on one line and has at most 1024
characters. -/
def dropPassedKeys : Lexing Unit := do
  let l ← get
  let isPassed (k : KeyPlace) : Bool :=
    k.line != l.cursor.line || k.index + 1024 < l.cursor.index
  if l.keys.any fun k => k.2.required && isPassed k.2 then fail
  set { l with keys := l.keys.filter fun k => !isPassed k.2 }

/-- Drops the key place of the current level, which must not be a key by necessity. -/
def dropKey : Lexing Unit := do
  let l ← get
  if l.keys.any fun k => k.1 == l.depth && k.2.required then fail
  set { l with keys := l.keys.filter fun k => k.1 != l.depth }

/-- Notes that a key may begin here. -/
def noteKey : Lexing Unit := do
  if (← get).keyAllowed then
    dropKey
    let l ← get
    let c := l.cursor
    let place : KeyPlace :=
      ⟨l.tokens.size, c.index, c.line, c.column, l.depth == 0 && l.indent == c.column⟩
    set { l with keys := (l.depth, place) :: l.keys }

/-! ### Blocks -/

/-- Closes the blocks to the right of a column. -/
def closeBlocks (column : Int) : Lexing Unit := do
  let l ← get
  if l.depth == 0 then
    let columns := l.indent :: l.outer
    let closed := (columns.takeWhile (column < ·)).length
    match columns.drop closed with
    | [] => pure ()
    | i :: rest =>
      let ends := Array.replicate closed Token.blockEnd
      set { l with tokens := l.tokens ++ ends, indent := i, outer := rest }

/-- Opens a block in a column to the right, the token of which is given a place. -/
def openBlock (column : Nat) (t : Token) (place : Nat) : Lexing Unit :=
  modify fun l =>
    if l.indent < (column : Int) then
      { l with
        indent := column
        outer := l.indent :: l.outer
        tokens := (l.tokens.toList.insertIdx place t).toArray }
    else l

/-- Opens a block in the current column where no bracket is open; a key must be allowed
there. -/
def openBlockHere (t : Token) : Lexing Unit := do
  let l ← get
  if l.depth == 0 then
    if !l.keyAllowed then fail
    openBlock l.cursor.column t l.tokens.size

/-! ### Tokens -/

/-- Passes over blanks, comments and breaks; after a break a key may begin. -/
def toNextToken : Nat → Lexing Unit
  | 0 => pure ()
  | fuel + 1 => do
    lex Lex.skipSpaces
    lex Lex.skipComment
    match ← lex Lex.lineBreak with
    | [] => pure ()
    | _ => do
      if (← get).depth == 0 then allowKey true
      toNextToken fuel

/-- A directive or a separator of documents, before which all blocks end. -/
def separator (t : Lexing Unit) : Lexing Unit := do
  closeBlocks (-1)
  dropKey
  allowKey false
  t

/-- The begin of a collection in brackets. -/
def openBracket (t : Token) : Lexing Unit := do
  noteKey
  modify fun l => { l with depth := l.depth + 1 }
  allowKey true
  pushMark t 1

/-- The end of a collection in brackets. -/
def closeBracket (t : Token) : Lexing Unit := do
  dropKey
  modify fun l => { l with depth := l.depth - 1 }
  allowKey false
  pushMark t 1

/-- A token of several characters with which a key may begin. -/
def keyword (t : Lex Token) : Lexing Unit := do
  noteKey
  allowKey false
  push (← lex t)

/-- A comma. -/
def comma : Lexing Unit := do
  allowKey true
  dropKey
  pushMark .flowEntry 1

/-- A dash. -/
def dash : Lexing Unit := do
  openBlockHere .blockSequence
  allowKey true
  dropKey
  pushMark .blockEntry 1

/-- A question mark. -/
def question : Lexing Unit := do
  openBlockHere .blockMapping
  allowKey ((← get).depth == 0)
  dropKey
  pushMark .key 1

/-- A colon: the key before it is found at its place, or it is empty. -/
def colon : Lexing Unit := do
  let l ← get
  match l.keys.find? fun k => k.1 == l.depth with
  | some (_, k) => do
    set { l with
      keys := l.keys.filter fun k => k.1 != l.depth
      tokens := (l.tokens.toList.insertIdx k.number .key).toArray }
    if l.depth == 0 then openBlock k.column .blockMapping k.number
    allowKey false
  | none => do
    openBlockHere .blockMapping
    allowKey (l.depth == 0)
    dropKey
  pushMark .value 1

/-- A block scalar. -/
def blockScalar (isFolded : Bool) : Lexing Unit := do
  allowKey true
  dropKey
  push (← lex (Lex.blockScalar isFolded (← get).indent))

/-- A plain scalar; if a line ended after it, a key may begin. -/
def plainScalar : Lexing Unit := do
  noteKey
  let l ← get
  let (t, broken) ← lex (Lex.plainScalar (0 < l.depth) l.indent)
  allowKey broken
  push t

/-- Whether a plain scalar begins at a character. -/
def beginsPlain (depth : Nat) (c : Char) (next : Option Char) : Bool :=
  !(endsWord (some c) || ['-', '?', ':', ',', '[', ']', '\x7b', '\x7d', '#', '&', '*', '!', '|',
      '>', '\'', '"', '%', '@', '\x60'].contains c)
    || (!endsWord next && (c == '-' || (depth == 0 && (c == '?' || c == ':'))))

/-- The next token at a character. -/
def nextAt (c : Char) : Lexing Unit := do
  let l ← get
  let next := l.cursor.peek 1
  let atBegin := l.cursor.column == 0
  let inFlow := 0 < l.depth
  if c == '%' && atBegin then separator (do push (← lex Lex.directive))
  else if atBegin && l.cursor.atMarker '-' then separator (pushMark .documentStart 3)
  else if atBegin && l.cursor.atMarker '.' then separator (pushMark .documentEnd 3)
  else if c == '[' then openBracket .flowSequence
  else if c == '\x7b' then openBracket .flowMapping
  else if c == ']' then closeBracket .flowSequenceEnd
  else if c == '\x7d' then closeBracket .flowMappingEnd
  else if c == ',' then comma
  else if c == '-' && endsWord next then dash
  else if c == '?' && (inFlow || endsWord next) then question
  else if c == ':' && (inFlow || endsWord next) then colon
  else if c == '*' then keyword (do return .alias (← Lex.anchorName))
  else if c == '&' then keyword (do return .anchor (← Lex.anchorName))
  else if c == '!' then keyword Lex.tag
  else if c == '|' && !inFlow then blockScalar false
  else if c == '>' && !inFlow then blockScalar true
  else if c == '\'' then keyword (Lex.quotedScalar false)
  else if c == '"' then keyword (Lex.quotedScalar true)
  else if beginsPlain l.depth c next then plainScalar
  else fail

/-- Takes the next tokens, or notes the end of the text. -/
def more : Lexing Unit := do
  toNextToken ((← get).cursor.rest.length + 1)
  dropPassedKeys
  closeBlocks (← get).cursor.column
  match (← get).cursor.rest with
  | [] => separator (modify fun l => { l with ended := true })
  | c :: _ => nextAt c

/-- Whether the token of a given number is not known yet: it was not taken, or a colon may
still turn it into a key. -/
def isOpen (number : Nat) : Lexing Bool := do
  if (← get).ended then return false
  if (← get).tokens.size ≤ number then return true
  dropPassedKeys
  return (← get).keys.any fun k => k.2.number == number

/-- Goes on until the token of a given number is known or the text is at its end; `fuel`
bounds the number of tokens. -/
def reach (number : Nat) : Nat → Lexing Unit
  | 0 => fail
  | fuel + 1 => do
    if ← isOpen number then
      more
      reach number fuel

/-- The token of a given number, nothing after the last. -/
def token? (number : Nat) : Lexing (Option Token) := do
  reach number ((← get).cursor.rest.length + 2)
  return (← get).tokens[number]?

/-- The lexer at the begin of a text, all characters of which must be allowed. -/
def ofText (s : String) : Except Fault Lexer :=
  let cs := s.toList
  if cs.all isAllowed then
    .ok (.start (if cs.head? == some byteOrderMark then cs.drop 1 else cs))
  else .error .malformed

end Lexer

end TradeGate.Yaml
