import TradeGate.Text.CaseTable
import TradeGate.Text.Ranges

/-!
# Texts in capital and in small letters

The form of a text in capital letters and in small ones, for the letters of all scripts.  A
form may be longer than its letter.  One letter has two small forms: the capital sigma is
written in another way at the end of a word.
-/

namespace TradeGate.Text

/-- The form of a character by a table of runs and one of longer forms. -/
def caseForm (runs : List CaseRun) (special : List (Nat × List Nat)) (c : Char) : List Char :=
  let n := c.toNat
  match special.find? fun s => s.1 == n with
  | some (_, form) => form.map Char.ofNat
  | none =>
    match runs.find? fun r => r.first ≤ n && n ≤ r.last && (n - r.first) % r.step == 0 with
    | some r => [Char.ofNat ((n : Int) + r.distance).toNat]
    | none => [c]

/-- Whether the first character that counts is a letter with a case. -/
def meetsCased (cs : List Char) : Bool :=
  (cs.dropWhile fun c => inRanges ignorableRanges c.toNat).head?.any fun c =>
    inRanges casedRanges c.toNat

/-- The capital sigma. -/
def capitalSigma : Char := '\u03a3'

/-- The small forms of the characters after those of `before`, which are given from the last
one backwards. -/
def lowerFrom (before : List Char) : List Char → List Char
  | [] => []
  | c :: cs =>
    let form :=
      if c = capitalSigma then
        [if meetsCased before && !meetsCased cs then '\u03c2' else '\u03c3']
      else caseForm lowerRuns lowerSpecial c
    form ++ lowerFrom (c :: before) cs

/-- The text in small letters. -/
def lower (s : String) : String :=
  .ofList (lowerFrom [] s.toList)

/-- The text in capital letters. -/
def upper (s : String) : String :=
  .ofList (s.toList.flatMap (caseForm upperRuns upperSpecial))

example : upperRuns.all (fun r => r.first ≤ r.last && 0 < r.step) = true := by decide
example : lowerRuns.all (fun r => r.first ≤ r.last && 0 < r.step) = true := by decide

end TradeGate.Text
