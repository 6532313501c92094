import TradeGate.Value.Whole
import TradeGate.Yaml.Cursor
import TradeGate.Yaml.Token

/-!
# Lexemes

The reading of single lexemes: scalars in four styles, anchors, tags and directives.  In
scalars that go over several lines a single break is folded into a space, and of several
breaks the first is dropped.
-/

namespace TradeGate.Yaml.Lex

/-! ### Quoted scalars -/

/-- The character that a letter after a backslash stands for. -/
def escape? : Char → Option Char
  | '0' => some '\x00'
  | 'a' => some '\x07'
  | 'b' => some '\x08'
  | 't' => some '\t'
  | '\t' => some '\t'
  | 'n' => some '\n'
  | 'v' => some '\x0b'
  | 'f' => some '\x0c'
  | 'r' => some '\r'
  | 'e' => some '\x1b'
  | ' ' => some ' '
  | '"' => some '"'
  | '\\' => some '\\'
  | '/' => some '/'
  | 'N' => some '\x85'
  | '_' => some '\xa0'
  | 'L' => some '\u2028'
  | 'P' => some '\u2029'
  | _ => none

/-- The number of digits after a letter that introduces a code point. -/
def codeLength? : Char → Option Nat
  | 'x' => some 2
  | 'u' => some 4
  | 'U' => some 8
  | _ => none

/-- The value of a hexadecimal digit. -/
def hexDigit? (c : Char) : Option Nat :=
  if '0' ≤ c && c ≤ '9' then some (c.toNat - '0'.toNat)
  else if 'a' ≤ c && c ≤ 'f' then some (c.toNat - 'a'.toNat + 10)
  else if 'A' ≤ c && c ≤ 'F' then some (c.toNat - 'A'.toNat + 10)
  else none

/-- The number that hexadecimal digits denote. -/
def hexValue? (cs : List Char) : Option Nat :=
  (cs.mapM hexDigit?).map fun ds => ds.foldl (fun n d => 16 * n + d) 0

/-- The largest number that a code point may be written as before it is looked at. -/
def maxCode : Nat := 0x7FFFFFFF

/-- Takes the digits of a code point, which may be no character. -/
def codePoint (length : Nat) : Lex Text.Point := do
  let cs ← take length
  match if cs.length = length then hexValue? cs else none with
  | none => fail
  | some n =>
    if maxCode < n then throw (.outOfRange "Python int too large to convert to C int")
    else if 0x110000 ≤ n then throw (.badValue "chr() arg not in range(0x110000)")
    else return .ofCode n

/-- The breaks up to the next line that is not blank, which must not begin with a
separator of documents. -/
def foldedBreaks : Nat → Lex (List Char)
  | 0 => fail
  | fuel + 1 => do
    require !(← get).atSeparator
    discard (span fun c => c == ' ' || c == '\t')
    match ← lineBreak with
    | [] => return []
    | b => return b ++ (← foldedBreaks fuel)

/-- The text that a break and the breaks after it stand for. -/
def folded (first more : List Char) : List Char :=
  if first != ['\n'] then first ++ more
  else if more.isEmpty then [' ']
  else more

/-- Blanks in a quoted scalar, which must not end there. -/
def quotedBlanks (fuel : Nat) : Lex (List Char) := do
  let blanks ← span fun c => c == ' ' || c == '\t'
  if (← peek 0).isNone then fail
  match ← lineBreak with
  | [] => return blanks
  | b => return folded b (← foldedBreaks fuel)

/-- Characters as they are. -/
def known (cs : List Char) : List Text.Point := cs.map .char

/-- What stands after a backslash. -/
def escaped (fuel : Nat) : Lex (List Text.Point) := do
  match ← peek 0 with
  | none => fail
  | some c =>
    match escape? c, codeLength? c with
    | some d, _ => do
      skip 1
      return [.char d]
    | none, some n => do
      skip 1
      return [← codePoint n]
    | none, none =>
      if isBreak c then do
        discard lineBreak
        return known (← foldedBreaks fuel)
      else fail

/-- The text up to the quote, which is passed over; a single quote that is written twice
stands for itself. -/
def quotedText (double : Bool) : Nat → Lex (List Text.Point)
  | 0 => fail
  | fuel + 1 => do
    match ← peek 0, ← peek 1 with
    | none, _ => fail
    | some '"', _ =>
      skip 1
      if double then return [] else return .char '"' :: (← quotedText double fuel)
    | some '\'', next =>
      skip 1
      if double then return .char '\'' :: (← quotedText double fuel)
      else if next == some '\'' then do
        skip 1
        return .char '\'' :: (← quotedText double fuel)
      else return []
    | some '\\', _ =>
      skip 1
      let s ← if double then escaped fuel else pure [.char '\\']
      return s ++ (← quotedText double fuel)
    | some c, _ =>
      let s ← if c == ' ' || c == '\t' || isBreak c then quotedBlanks fuel else take 1
      return known s ++ (← quotedText double fuel)

/-- A scalar in quotes. -/
def quotedScalar (double : Bool) : Lex Token := do
  skip 1
  match Text.ofPoints (← quotedText double ((← get).rest.length + 1)) with
  | .ok s => return .scalar s .marked
  | .error t => return .scalar t.shown (.broken t)

/-! ### Plain scalars -/

/-- Whether a plain scalar ends at a character, of which the next one is given. -/
def endsPlain (inFlow : Bool) (c : Char) (next : Option Char) : Bool :=
  endsWord (some c)
    || (c == ':' && (endsWord next
      || (inFlow && next.any fun d => [',', '[', ']', '\x7b', '\x7d'].contains d)))
    || (inFlow && [',', '?', '[', ']', '\x7b', '\x7d'].contains c)

/-- The number of characters of the run of a plain scalar. -/
def plainLength (inFlow : Bool) : List Char → Nat
  | [] => 0
  | c :: cs => if endsPlain inFlow c cs.head? then 0 else plainLength inFlow cs + 1

/-- The breaks after a first one; nothing where a separator of documents follows. -/
def plainBreaks : Nat → Lex (Option (List Char))
  | 0 => fail
  | fuel + 1 => do
    if (← get).atSeparator then return none
    skipSpaces
    match ← lineBreak with
    | [] => return some []
    | b => return (← plainBreaks fuel).map (b ++ ·)

/-- The text that blanks and breaks after a run stand for, and whether there was a break;
nothing where the scalar ends. -/
def plainBlanks (fuel : Nat) : Lex (List Char × Bool) := do
  let blanks ← span (· == ' ')
  match ← lineBreak with
  | [] => return (blanks, false)
  | b =>
    match ← plainBreaks fuel with
    | none => return ([], true)
    | some more => return (folded b more, true)

/-- The runs of a plain scalar, the lines of which must be indented; tells whether a line
ended after the last run. -/
def plainRuns (inFlow : Bool) (indent : Int) : Nat → List Char → Lex (List Char × Bool)
  | 0, _ => return ([], false)
  | fuel + 1, blanks => do
    let c ← get
    let n := plainLength inFlow c.rest
    if c.peek 0 == some '#' || n == 0 then return ([], false)
    let run ← take n
    let (between, broken) ← plainBlanks fuel
    let after ← get
    if between.isEmpty || after.peek 0 == some '#' || (!inFlow && (after.column : Int) < indent)
    then return (blanks ++ run, broken)
    else do
      let (more, last) ← plainRuns inFlow indent fuel between
      return (blanks ++ run ++ more, if more.isEmpty then broken else last)

/-- A plain scalar, and whether a line ended after it. -/
def plainScalar (inFlow : Bool) (indent : Int) : Lex (Token × Bool) := do
  let (cs, broken) ← plainRuns inFlow (indent + 1) ((← get).rest.length + 1) []
  return (.scalar (.ofList cs) .plain, broken)

/-! ### Block scalars -/

/-- What becomes of the breaks at the end of a block scalar. -/
inductive Chomping where
  | clip
  | strip
  | keep
deriving DecidableEq

/-- Takes a sign for the breaks at the end. -/
def chomping? : Lex (Option Chomping) := do
  match ← peek 0 with
  | some '+' => do
    skip 1
    return some .keep
  | some '-' => do
    skip 1
    return some .strip
  | _ => return none

/-- Takes a digit for the indentation, which must not be zero. -/
def increment? : Lex (Option Nat) := do
  match (← peek 0).bind fun c => if '0' ≤ c && c ≤ '9' then some (c.toNat - '0'.toNat) else none with
  | some 0 => fail
  | some n => do
    skip 1
    return some n
  | none => return none

/-- Takes the signs after the begin of a block scalar, in either order. -/
def blockSigns : Lex (Chomping × Option Nat) := do
  match ← chomping? with
  | some c => return (c, ← increment?)
  | none =>
    match ← increment? with
    | some n => return ((← chomping?).getD .clip, some n)
    | none => return (.clip, none)

/-- Takes the blank lines at the begin, and tells the longest of their indentations and
of the line after them. -/
def leadingBreaks : Nat → Lex (List Char × Nat)
  | 0 => return ([], 0)
  | fuel + 1 => do
    skipSpaces
    let column := (← get).column
    match ← lineBreak with
    | [] => return ([], column)
    | b => do
      let (more, widest) ← leadingBreaks fuel
      return (b ++ more, max column widest)

/-- Passes over at most so many spaces that the column is reached. -/
def skipIndent (indent : Nat) : Lex Unit := do
  let c ← get
  skip (min (indent - c.column) (c.rest.takeWhile (· == ' ')).length)

/-- Takes blank lines of a block scalar. -/
def blockBreaks (indent : Nat) : Nat → Lex (List Char)
  | 0 => return []
  | fuel + 1 => do
    skipIndent indent
    match ← lineBreak with
    | [] => return []
    | b => return b ++ (← blockBreaks indent fuel)

/-- Takes the lines of a block scalar after some breaks: the text, the last break, and
the breaks after it. -/
def blockLines (isFolded : Bool) (indent : Nat) :
    Nat → List Char → Lex (List Char × List Char × List Char)
  | 0, breaks => return ([], [], breaks)
  | fuel + 1, breaks => do
    let isInner (c : Cursor) : Bool := c.column == indent && !c.rest.isEmpty
    let startsText (c : Option Char) : Bool := !c.any fun d => d == ' ' || d == '\t'
    if !isInner (← get) then return ([], [], breaks)
    let leading := startsText (← peek 0)
    let line ← span (!isBreak ·)
    let b ← lineBreak
    let more ← blockBreaks indent fuel
    let c ← get
    if isInner c then do
      let between :=
        if isFolded && b == ['\n'] && leading && startsText (c.peek 0) then
          if more.isEmpty then [' '] else []
        else b
      let (text, last, after) ← blockLines isFolded indent fuel more
      return (breaks ++ line ++ between ++ text, last, after)
    else return (breaks ++ line, b, more)

/-- A block scalar inside a block of some indentation. -/
def blockScalar (isFolded : Bool) (outer : Int) : Lex Token := do
  skip 1
  let (chomping, increment) ← blockSigns
  require (endsField (← peek 0))
  restOfLine
  let fuel := (← get).rest.length + 1
  let least := (max 1 (outer + 1)).toNat
  let (indent, breaks) ←
    match increment with
    | none => do
      let (breaks, widest) ← leadingBreaks fuel
      pure (max least widest, breaks)
    | some n => do
      let indent := least + n - 1
      pure (indent, ← blockBreaks indent fuel)
  let (text, last, after) ← blockLines isFolded indent fuel breaks
  let tail :=
    match chomping with
    | .strip => []
    | .clip => last
    | .keep => last ++ after
  return .scalar (.ofList (text ++ tail)) .marked

/-! ### Anchors, tags and directives -/

/-- Takes a name, which must not be empty. -/
def name : Lex String := do
  let cs ← span isNameChar
  require !cs.isEmpty
  return .ofList cs

/-- The name of an anchor or an alias after its sign. -/
def anchorName : Lex String := do
  skip 1
  let s ← name
  let c ← peek 0
  require (endsWord c || c.any fun d => ['?', ':', ',', ']', '\x7d', '%', '@', '\x60'].contains d)
  return s

/-- The bytes that are written by percent signs. -/
def percentBytes : Nat → Lex (List UInt8)
  | 0 => return []
  | fuel + 1 => do
    if (← peek 0) != some '%' then return []
    skip 1
    match hexValue? (← take 2), (← get).rest with
    | some n, _ => return UInt8.ofNat n :: (← percentBytes fuel)
    | none, _ => fail

/-- Whether a character may stand in the name of a tag. -/
def isTagChar (c : Char) : Bool :=
  isNameChar c || [';', '/', '?', ':', '@', '&', '=', '+', '$', ',', '.', '!', '~', '*', '\'', '(',
    ')', '[', ']'].contains c

/-- The text of a tag. -/
def tagText : Nat → Lex (List Char)
  | 0 => return []
  | fuel + 1 => do
    let cs ← span isTagChar
    if (← peek 0) == some '%' then
      match String.fromUTF8? ⟨(← percentBytes fuel).toArray⟩ with
      | some s => return cs ++ s.toList ++ (← tagText fuel)
      | none => fail
    else return cs

/-- The text of a tag, which must not be empty. -/
def tagName : Lex String := do
  let cs ← tagText ((← get).rest.length + 1)
  require !cs.isEmpty
  return .ofList cs

/-- The handle of a tag: a name between two exclamation marks, or one mark. -/
def tagHandle : Lex String := do
  require ((← peek 0) == some '!')
  skip 1
  if (← peek 0) == some ' ' then return "!"
  let cs ← span isNameChar
  require ((← peek 0) == some '!')
  skip 1
  return .ofList ('!' :: cs ++ ['!'])

/-- A tag. -/
def tag : Lex Token := do
  let c ← get
  let token ←
    if c.peek 1 == some '<' then do
      skip 2
      let s ← tagName
      require ((← peek 0) == some '>')
      skip 1
      pure (Token.tag none s)
    else if endsWord (c.peek 1) then do
      skip 1
      pure (Token.tag none "!")
    else do
      let word := (c.rest.drop 1).takeWhile fun d => !(d == ' ' || isBreak d)
      let handle ←
        if word.contains '!' then tagHandle
        else do
          skip 1
          pure "!"
      pure (Token.tag (some handle) (← tagName))
  require (endsField (← peek 0))
  return token

/-- Takes a whole number. -/
def number : Lex Nat := do
  let cs ← span fun c => '0' ≤ c && c ≤ '9'
  require !cs.isEmpty
  return (← Whole.ofChars 10 cs (.ofList cs)).toNat

/-- A directive. -/
def directive : Lex Token := do
  skip 1
  let s ← name
  require (endsField (← peek 0))
  let d ←
    match s with
    | "YAML" => do
      skipSpaces
      let major ← number
      require ((← peek 0) == some '.')
      skip 1
      discard number
      require (endsField (← peek 0))
      pure (Directive.version major)
    | "TAG" => do
      skipSpaces
      let handle ← tagHandle
      require ((← peek 0) == some ' ')
      skipSpaces
      let expansion ← tagName
      require (endsField (← peek 0))
      pure (Directive.abbreviation handle expansion)
    | _ => do
      discard (span (!isBreak ·))
      pure Directive.other
  restOfLine
  return .directive d

end TradeGate.Yaml.Lex
