import TradeGate.Settings
import TradeGate.Shelf
import TradeGate.Yaml.Document

/-!
# Setting up

A setup is what the configuration is made from: the environment, the documents around,
and the settings that were asked for and are kept.  A gate configuration is read from a
document of profiles, or stands for the settings where there is no such document.  The
assignments beside the document go into the environment first, where they do not change a
variable that is there; settings that were kept before are then dropped.  A variable may
keep the assignments out.
-/

namespace TradeGate

/-- What a configuration is made from. -/
structure Setup where
  /-- The variable that may keep assignments out of the environment. -/
  guardName : String
  environment : Environment
  shelf : Shelf
  /-- The settings that were asked for and are kept. -/
  kept : Option Settings
deriving Repr, Inhabited

namespace Setup

/-- The name of the document of profiles. -/
def profilesName : String := "risk.yaml"

/-- The text of a document with its line breaks made alike. -/
def plainBreaks : List Char → List Char
  | '\r' :: '\n' :: cs => '\n' :: plainBreaks cs
  | '\r' :: cs => '\n' :: plainBreaks cs
  | c :: cs => c :: plainBreaks cs
  | [] => []

/-- The text of a document as it is read. -/
def plain (t : String) : String := .ofList (plainBreaks t.toList)

/-- The assignments in the file under a path, none where there is no such file.  A path that
no file can have is no fault. -/
def assignments (s : Setup) (p : Path) : Except Fault (List Assignment) :=
  match s.shelf.find p with
  | .ok (.document t) => .ok (Assignment.ofText (plain t))
  | .error .tooLong => .error .tooLong
  | _ => .ok []

/-- The settings of given fields, the environment and the assignments around. -/
def settings (s : Setup) (given : Fields) : Except Fault Settings := do
  let sources ← Settings.Sources.ofFields given
  let files ← sources.files.mapM s.assignments
  ((Settings.gather given sources s.environment files).finish .settings).mapError .refused

/-- The settings that are kept, or else those of no fields, which are kept from then on. -/
def keptSettings (s : Setup) : Except Fault Settings × Setup :=
  match s.kept with
  | some k => (.ok k, s)
  | none =>
    match s.settings [] with
    | .ok k => (.ok k, { s with kept := some k })
    | .error e => (.error e, s)

/-- The configuration that settings stand for. -/
def configOf (k : Settings) : Except Fault GateConfig :=
  (k.config.finish .gateConfig).mapError .refused

/-- The fields with a timeframe, unless they name one. -/
def withTimeframe (timeframe : String) (fields : Fields) : Fields :=
  if (Value.lookup "timeframe" fields).isSome then fields
  else fields ++ [("timeframe", .text timeframe)]

/-- The fields of a value that is a record; one that counts as false has none. -/
def fieldsOf : Value → Except Fault Fields
  | .record fields => .ok fields
  | v => if v.truth then .error (.noAttribute v.kindName "setdefault") else .ok []

/-- The configuration of a document. -/
def configOfDocument (d : Yaml.Document) (timeframe : String) : Except Fault GateConfig := do
  let fields ← fieldsOf d.value
  if !d.hasTextKeys then throw (.wrongKind "texts as names" "others")
  ((GateConfig.read (withTimeframe timeframe fields)).finish .gateConfig).mapError .refused

/-- The configuration of the document under a path, or of the settings where there is no
document. -/
def configAt (s : Setup) (p : Path) (k : Settings) : Except Fault GateConfig := do
  match s.shelf.find p with
  | .ok (.document t) => configOfDocument (← Yaml.Document.ofText (plain t)) k.timeframe
  | .ok .folder => throw (.path .isFolder)
  | .ok .nothing => configOf k
  | .error .tooLong => throw .tooLong
  | .error _ => configOf k

/-- Words that a variable is switched on with. -/
def onWords : List String := ["1", "true", "t", "yes", "y"]

/-- Whether assignments are kept out of the environment.  The case of letters does not
count. -/
def isGuarded (s : Setup) : Bool :=
  (s.environment.get? s.guardName).any fun v => onWords.contains (Text.lower (Text.upper v))

/-- Puts the assignments beside a document into the environment, unless they are kept out.
Settings that are kept are dropped if there are any, unless settings are given. -/
def loadAssignments (s : Setup) (p : Path) (isGiven : Bool) : Except Fault Unit × Setup :=
  if s.isGuarded then (.ok (), s) else
  match s.shelf.find (p.parent.child Settings.assignmentsName) with
  | .ok (.document t) =>
    let as := Assignment.ofText (plain t)
    match s.environment.load as with
    | (.ok (), e) =>
      (.ok (), { s with
        environment := e
        kept := if isGiven || as.isEmpty then s.kept else none })
    | (.error f, e) => (.error f, { s with environment := e })
  | .error (.badValue text) => (.error (.badValue text), s)
  | _ => (.ok (), s)

/-- Loads the configuration under a path with given settings, or with those that are
kept. -/
def load (s : Setup) (p : Path) (given : Option Settings) : Except Fault GateConfig × Setup :=
  match s.loadAssignments p given.isSome with
  | (.error e, s) => (.error e, s)
  | (.ok (), s) =>
    match given with
    | some k => (s.configAt p k, s)
    | none =>
      let (k, s) := s.keptSettings
      (k.bind (s.configAt p), s)

end Setup

end TradeGate
