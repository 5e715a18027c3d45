import TrackedEntity.Number.Reading
import TrackedEntity.Position
import TrackedEntity.Settings.Basic
import TrackedEntity.Settings.EnvironmentFile
import TrackedEntity.Table
import TrackedEntity.Value.Truth

/-!
# Where settings come from

Each setting is taken from the first source that has it: the values given outright, the process
environment, the environment file, and last the default. Names are compared without regard to letter
case. Of several given values of one name the first counts, of several variables the last. Values
from the environment are texts.

All problems are reported together, one per setting, in the order of the settings.
-/

namespace TrackedEntity

/-- The sources of settings. -/
structure SettingSources where
  /-- Values given outright. -/
  given : Table String Value
  /-- The process environment. -/
  environment : Environment
  /-- The text of the environment file. -/
  file : String

/-- A setting that may have a problem. -/
abbrev Checked := Except SettingProblem

namespace SettingName

/-- The name of the environment variable of a setting, in small letters. -/
def environmentName (s : SettingName) : String := "entitykit_" ++ s.key

end SettingName

/-- A character in small letters, as far as the names of settings need it: besides the letters of
ASCII, the Kelvin sign is a `k`. -/
def smallLetter (c : Char) : Char := if c = '\u212a' then 'k' else c.toLower

/-- Whether a name is the given one when written in small letters. -/
def isNameFor (name written : String) : Bool :=
  String.ofList (written.toList.map smallLetter) == name

namespace SettingSources

/-- The first given value of a setting. -/
def given? (sources : SettingSources) (s : SettingName) : Option Value :=
  (sources.given.find? fun e => isNameFor s.key e.1).map (·.2)

/-- The last variable of the process for a setting. -/
def inEnvironment? (sources : SettingSources) (s : SettingName) : Option Value :=
  (sources.environment.filter fun e => isNameFor s.environmentName e.1).getLast?.map (.str ·.2)

/-- The last variable of the environment file for a setting, if it has a value. -/
def inFile? (sources : SettingSources) (s : SettingName) : Option Value :=
  let found := EnvironmentFile.variablesOf sources.environment sources.file
  ((found.filter fun e => isNameFor s.environmentName e.1).getLast?.bind (·.2)).map .str

/-- The value of a setting in the first source that has it. -/
def find? (sources : SettingSources) (s : SettingName) : Option Value :=
  ((sources.given? s).or (sources.inEnvironment? s)).or (sources.inFile? s)

end SettingSources

/-- The text that a value is, read from bytes if need be. -/
def textOf? : Value → Option (Option String)
  | .str s => some (some s)
  | .bytes data => some (String.fromUTF8? ⟨data.toArray⟩)
  | _ => none

/-- The number that a value stands for. -/
def readNumber (v : Value) : Checked Binary64 :=
  match textOf? v with
  | some text =>
    match text.bind Binary64.read? with
    | some x => .ok x
    | none => .error .unreadableNumber
  | none =>
    match v with
    | .bool b => .ok (.ofInt (if b then 1 else 0))
    | .int n =>
      let x := Binary64.ofInt n
      if x.isInfinite then .error .notANumber else .ok x
    | .float _ x => .ok x
    | _ => .error .notANumber

/-- The ratio that a value stands for; the absence of a value is no limit. -/
def readRatio (v : Value) : Checked (Option MethodRatio) :=
  match v with
  | .none => .ok none
  | v => do
    let x ← readNumber v
    if h : Exact.atMost (Exact.ofInt 0) x.exact = true then return some ⟨x, h⟩
    else throw .belowZero

/-- Words that stand for a truth value, in small letters. -/
def truthWords : Table String Bool :=
  [("0", false), ("off", false), ("f", false), ("false", false), ("n", false), ("no", false),
   ("1", true), ("on", true), ("t", true), ("true", true), ("y", true), ("yes", true)]

/-- Whether a floating point number is whole and lies within the signed words of 64 bits, the least
of them left out. -/
def isWholeWord (x : Exact) : Bool :=
  x.isWhole && (Exact.ofInt (-9223372036854775808)).less x
    && x.less (.ofInt 9223372036854775808)

/-- The truth value that a value stands for. -/
def readTruth (v : Value) : Checked Bool :=
  match textOf? v with
  | some text =>
    match text.bind fun s => truthWords.get? (String.ofList (s.toList.map Char.toLower)) with
    | some b => .ok b
    | none => .error .unreadableTruthValue
  | none =>
    match v with
    | .bool b => .ok b
    | .int n =>
      if n = 0 then .ok false
      else if n = 1 then .ok true
      else if Position.isWord n then .error .unreadableTruthValue
      else .error .notATruthValue
    | .float _ x =>
      if x.exact.equals (.ofInt 0) then .ok false
      else if x.exact.equals (.ofInt 1) then .ok true
      else if isWholeWord x.exact then .error .unreadableTruthValue
      else .error .notATruthValue
    | _ => .error .notATruthValue

namespace Settings

/-- Reads the settings. -/
def load (sources : SettingSources) : Except Fault Settings :=
  let ratio := ((sources.find? .methodRatio).map readRatio).getD (.ok default.methodRatio)
  let strip :=
    ((sources.find? .stripInterfaceMark).map readTruth).getD (.ok default.stripInterfaceMark)
  match ratio, strip with
  | .ok methodRatio, .ok stripInterfaceMark => .ok { methodRatio, stripInterfaceMark }
  | .error p, .ok _ => .error (.invalidSettings [(.methodRatio, p)])
  | .ok _, .error q => .error (.invalidSettings [(.stripInterfaceMark, q)])
  | .error p, .error q =>
    .error (.invalidSettings [(.methodRatio, p), (.stripInterfaceMark, q)])

/-- The settings that hold with the given values alone. -/
def ofGiven (given : Table String Value) : Except Fault Settings := load ⟨given, [], ""⟩

/-- Assigning to settings is refused, except under a private name, which means nothing to them. -/
def assign (name : String) : Except Fault Unit :=
  if name.startsWith "_" then .ok () else .error (.frozenSetting name)

end Settings

end TrackedEntity
