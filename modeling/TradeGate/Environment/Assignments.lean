import TradeGate.Environment.Basic
import TradeGate.Text.Blank

/-!
# Files of assignments

A file of assignments has lines `NAME=value`, possibly after the word `export`.  A value
stands in single or double quotes, or it is the rest of its line up to a comment, which
a blank precedes.  A name alone has no value.  A mark of the byte order in front of the
file does not count.  Lines that cannot be read are passed over.
`${NAME}` and `${NAME:-default}` in a value stand for another variable.
-/

namespace TradeGate

/-- A name with its value, if it has one. -/
structure Assignment where
  name : String
  value : Option String
deriving Repr, DecidableEq

namespace Assignment

/-! ### Reading -/

/-- The end of a line. -/
def isLineEnd (c : Char) : Bool := c == '\n' || c == '\r'

/-- A blank inside a line. -/
def isGap (c : Char) : Bool := Text.isBlank c && !isLineEnd c

/-- The text without the blanks of the line in front. -/
def skipGap (cs : List Char) : List Char := cs.dropWhile isGap

/-- The text after the current line. -/
def nextLine (cs : List Char) : List Char := (cs.dropWhile (!isLineEnd ·)).drop 1

/-- The text after a word in front and the blanks after it, of which there must be one. -/
def skipExport (cs : List Char) : List Char :=
  let word := "export".toList
  let rest := cs.drop word.length
  if word.isPrefixOf cs && (rest.head?.any isGap) then skipGap rest else cs

/-- The text in front of the first quote that no backslash precedes, and the text after
it.  Where there is none, the last quote counts. -/
def untilQuote? (quote : Char) : List Char → Option (List Char × List Char)
  | [] => none
  | '\\' :: c :: cs =>
    if c = quote then
      match untilQuote? quote cs with
      | some (s, rest) => some ('\\' :: c :: s, rest)
      | none => some (['\\'], cs)
    else (untilQuote? quote (c :: cs)).map fun (s, rest) => ('\\' :: s, rest)
  | c :: cs =>
    if c = quote then some ([], cs)
    else (untilQuote? quote cs).map fun (s, rest) => (c :: s, rest)

/-- The character that a letter after a backslash stands for in double quotes. -/
def doubleEscape? : Char → Option Char
  | '\\' => some '\\'
  | '\'' => some '\''
  | '"' => some '"'
  | 'a' => some '\x07'
  | 'b' => some '\x08'
  | 'f' => some '\x0c'
  | 'n' => some '\n'
  | 'r' => some '\r'
  | 't' => some '\t'
  | 'v' => some '\x0b'
  | _ => none

/-- The character that a letter after a backslash stands for in single quotes. -/
def singleEscape? : Char → Option Char
  | '\\' => some '\\'
  | '\'' => some '\''
  | _ => none

/-- The text with its escapes resolved; other backslashes stay. -/
def unescape (escape? : Char → Option Char) : List Char → List Char
  | '\\' :: c :: cs =>
    match escape? c with
    | some d => d :: unescape escape? cs
    | none => '\\' :: unescape escape? (c :: cs)
  | c :: cs => c :: unescape escape? cs
  | [] => []

/-- The text in front of a comment: of blanks and a number sign. -/
def beforeComment : List Char → List Char
  | [] => []
  | c :: cs =>
    if Text.isBlank c && ((c :: cs).dropWhile Text.isBlank).head? == some '#' then []
    else c :: beforeComment cs

/-- The text without blanks at its end. -/
def trimEnd (cs : List Char) : List Char :=
  (cs.reverse.dropWhile Text.isBlank).reverse

/-- A value and the text after it. -/
def value? (cs : List Char) : Option (List Char × List Char) :=
  match cs with
  | '\'' :: rest => (untilQuote? '\'' rest).map fun (s, rest) => (unescape singleEscape? s, rest)
  | '"' :: rest => (untilQuote? '"' rest).map fun (s, rest) => (unescape doubleEscape? s, rest)
  | _ =>
    some (trimEnd (beforeComment (cs.takeWhile (!isLineEnd ·))), cs.dropWhile (!isLineEnd ·))

/-- A name, nothing in front of a comment, and the text after it. -/
def name? (cs : List Char) : Option (Option (List Char) × List Char) :=
  let isNameChar (c : Char) : Bool := c != '=' && c != '#' && !Text.isBlank c
  match cs with
  | '#' :: _ => some (none, cs)
  | '\'' :: rest =>
    let name := rest.takeWhile (· != '\'')
    match rest.dropWhile (· != '\'') with
    | _ :: after => if name.isEmpty then none else some (some name, after)
    | [] => none
  | _ =>
    let name := cs.takeWhile isNameChar
    if name.isEmpty then none else some (some name, cs.dropWhile isNameChar)

/-- The text after a comment and the end of the line. -/
def lineEnd? (cs : List Char) : Option (List Char) :=
  match skipGap cs with
  | '#' :: rest => some (nextLine rest)
  | [] => some []
  | c :: rest => if isLineEnd c then some rest else none

/-- The value after an equals sign, nothing where there is no such sign, and the text
after it.  A comment may follow the sign and a blank; then the value is empty. -/
def valuePart? (cs : List Char) : Option (Option (List Char) × List Char) :=
  match cs with
  | '=' :: rest =>
    if rest.head?.any isGap && (skipGap rest).head? == some '#' then some (some [], skipGap rest)
    else (value? (skipGap rest)).map fun (v, after) => (some v, after)
  | _ => some (none, cs)

/-- The assignment of a line, if it has one, and the text after it. -/
def line (cs : List Char) : Option Assignment × List Char :=
  let cs := skipExport (cs.dropWhile Text.isBlank)
  match name? cs with
  | none => (none, nextLine cs)
  | some (name, rest) =>
    match valuePart? (skipGap rest) with
    | none => (none, nextLine rest)
    | some (value, rest) =>
      match lineEnd? rest with
      | none => (none, nextLine rest)
      | some rest => (name.map fun n => ⟨.ofList n, value.map String.ofList⟩, rest)

/-- The assignments of at most `fuel` lines. -/
def lines : Nat → List Char → List Assignment
  | _, [] => []
  | 0, _ => []
  | fuel + 1, cs =>
    let (a, rest) := line cs
    a.toList ++ lines fuel rest

/-- The mark of the byte order. -/
def byteOrderMark : Char := '\ufeff'

/-- The assignments of a file. -/
def ofText (s : String) : List Assignment :=
  let cs := s.toList
  lines s.length (if cs.head? == some byteOrderMark then cs.drop 1 else cs)

/-! ### Other variables in a value -/

/-- A reference without its opening: name and default, and the text after it. -/
def reference? (cs : List Char) : Option ((String × Option String) × List Char) :=
  let name := String.ofList (cs.takeWhile fun c => c != '\x7d' && c != ':')
  match cs.dropWhile fun c => c != '\x7d' && c != ':' with
  | '\x7d' :: rest => some ((name, none), rest)
  | ':' :: '-' :: rest =>
    match rest.dropWhile (· != '\x7d') with
    | _ :: after => some ((name, some (.ofList (rest.takeWhile (· != '\x7d')))), after)
    | [] => none
  | _ => none

/-- The text with at most `fuel` characters and references resolved. -/
def expand (lookup : String → Option String → String) : Nat → List Char → List Char
  | _, [] => []
  | 0, _ => []
  | fuel + 1, c :: cs =>
    match c, cs with
    | '$', '\x7b' :: rest =>
      match reference? rest with
      | some ((name, default), after) =>
        (lookup name default).toList ++ expand lookup fuel after
      | none => c :: expand lookup fuel cs
    | _, _ => c :: expand lookup fuel cs

/-- Names with their values, if they have one; a later value takes the place of an
earlier one. -/
abbrev Values := List (String × Option String)

/-- The values with one under a name. -/
def putValue (name : String) (value : Option String) : Values → Values
  | [] => [(name, value)]
  | (k, v) :: rest => if k = name then (k, value) :: rest else (k, v) :: putValue name value rest

/-- The value that a reference stands for: of the environment or of the file, whichever
comes first.  A name without a value stands for nothing. -/
def referent (e : Environment) (environmentFirst : Bool) (seen : Values) (name : String)
    (default : Option String) : String :=
  let inFile := (seen.find? fun v => v.1 == name).map Prod.snd
  let outside := (e.get? name).map some
  match (if environmentFirst then outside <|> inFile else inFile <|> outside) with
  | some v => v.getD ""
  | none => default.getD ""

/-- The values of a file's assignments in an environment. -/
def resolve (e : Environment) (environmentFirst : Bool) (as : List Assignment) : Values :=
  as.foldl (fun seen a =>
    let value := a.value.map fun s =>
      String.ofList (expand (referent e environmentFirst seen) s.length s.toList)
    putValue a.name value seen) []

end Assignment

namespace Environment

/-- Gives the values of assignments to the names that have none, up to the first variable
that cannot be. -/
def load (e : Environment) (as : List Assignment) : Except Fault Unit × Environment :=
  e.setMissing ((Assignment.resolve e true as).filterMap fun v => v.2.map (v.1, ·))

end Environment

end TradeGate
