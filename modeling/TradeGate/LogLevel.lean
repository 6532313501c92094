import TradeGate.Fault
import TradeGate.Text.Case
import TradeGate.Text.Quoted

/-!
# Log levels

The levels below which records of a log are dropped, with their names.  Two levels have
a second name.
-/

namespace TradeGate

/-- A level of a log. -/
inductive LogLevel where
  | notSet
  | debug
  | info
  | warning
  | error
  | critical
deriving DecidableEq, Repr

namespace LogLevel

/-- The name of a level. -/
def name : LogLevel → String
  | notSet => "NOTSET"
  | debug => "DEBUG"
  | info => "INFO"
  | warning => "WARNING"
  | error => "ERROR"
  | critical => "CRITICAL"

def all : List LogLevel := [notSet, debug, info, warning, error, critical]

/-- The level of a given name. -/
def ofName? (s : String) : Option LogLevel :=
  if s = "WARN" then some warning
  else if s = "FATAL" then some critical
  else all.find? fun l => l.name == s

/-- The level of a name in any case. -/
def ofText (s : String) : Except Fault LogLevel :=
  let s := Text.upper s
  match ofName? s with
  | some l => .ok l
  | none => .error (.badValue ("Unknown level: " ++ Text.quoted s))

/-- The form of a record. -/
def recordForm : String := "%(asctime)s - %(levelname)s - %(message)s"

@[simp]
theorem ofName?_name
    (l : LogLevel) :
  ofName? l.name = some l
  := by
  cases l <;> decide

end LogLevel

end TradeGate
