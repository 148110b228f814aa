import FundLedger.Json.Reader
import FundLedger.Record.Fields
import FundLedger.Settings.Folder
import FundLedger.Settings.Path
/-!
# Settings

The settings come from two files, the defaults and those of the mode that the program runs in, and from variables of
the environment.  What comes later counts.  A key is the path of its setting: a variable has two underscores instead of
the points of the path, and in front of it the name of the program, in any case.

* `Settings`, `Settings.load?`.
-/

namespace FundLedger

/-- What the program can be told about its surroundings. -/
structure Settings where
  /-- The address of the storage server. -/
  baseUrl : String
  /-- How long to wait for an answer. -/
  timeoutSeconds : Nat
  /-- On whose behalf requests are made. -/
  tenant : Option String
  /-- Which events are logged. -/
  filter : String
  /-- Whether events are logged as JSON. -/
  logsJson : Bool
deriving DecidableEq

namespace Settings

/-! ## Values -/

/-- A setting that is text; numbers and truth values are read as text as well. -/
def text? : Json → Option String
  | .string s => some s
  | .bool b => some (if b then "true" else "false")
  | .number (.integer n) => some (toString n)
  | .number (.double x) => some x.plainText
  | _ => none

/-- The truth value that a word stands for. -/
def wordFlag? (s : String) : Option Bool :=
  let word := String.ofList (s.toList.map Char.toLower)
  if ["true", "on", "yes"].contains word then some true
  else if ["false", "off", "no"].contains word then some false
  else none

/-- A setting that is a truth value, or a text or number for one. -/
def flag? : Json → Option Bool
  | .bool b => some b
  | .number (.integer n) => some (n != 0)
  | .number (.double x) => some (x.significand != 0)
  | .string s => (wordFlag? s).orElse fun _ => if s = "1" then some true else if s = "0" then some false else none
  | _ => none

/-- The digits of a number behind an optional sign. -/
def unsigned? (s : String) : Option Nat :=
  match s.toList with
  | '+' :: ds => natOfDigits? ds
  | ds => natOfDigits? ds

/-- A setting that is a natural number of 64 bits, or a text or truth value for one. -/
def whole? (value : Json) : Option Nat :=
  let read : Option Nat :=
    match value with
    | .number (.integer n) => if 0 ≤ n then some n.toNat else none
    | .number (.double x) => some (min x.roundToNat (UInt64.size - 1))
    | .bool b => some b.toNat
    | .string s => ((wordFlag? s).map Bool.toNat).orElse fun _ => unsigned? s
    | _ => none
  read.filter (· < UInt64.size)

/-- A setting that may be missing or null. -/
def optional? {α : Type} (read : Json → Option α) (missing : α) (value : Option Json) : Option α :=
  match value with
  | none => some missing
  | some v => read v

/-! ## Sources -/

/-- Puts the settings of a source over those of earlier ones. -/
def overlay (earlier : Json) (source : List (String × Json)) : Json :=
  source.foldl (fun settings m => SettingPath.put m.2 settings (.ofKey m.1)) earlier

/-- Writes a point for every two underscores. -/
def pointed : List Char → List Char
  | '_' :: '_' :: rest => '.' :: pointed rest
  | c :: rest => c :: pointed rest
  | [] => []

/-- What stands in front of the settings among the variables of the environment. -/
def variableMark : List Char := "acqledger__".toList

/-- The setting of a variable, if it is one. -/
def ofVariable? (entry : String × String) : Option (String × Json) :=
  let name := entry.1.toList.map Char.toLower
  if variableMark.isPrefixOf name then
    some (String.ofList (pointed (name.drop variableMark.length)), .string entry.2)
  else none

/-- A text without the mark of its byte order in front. -/
def withoutMark (text : String) : String :=
  match text.toList with
  | '\ufeff' :: cs => String.ofList cs
  | _ => text

/-- The settings in a file; none in one that is not there. -/
def ofFile? : Option String → Option (List (String × Json))
  | none => some []
  | some text =>
    match Json.parse? (withoutMark text) with
    | some (.object members) => some members
    | _ => none

/-- The settings of a table. -/
def ofTable? (table : Json) : Option Settings := do
  let storage ← table.field? "storage" >>= Fields.ofAnyLength?
  let logging ← optional? Fields.ofAnyLength? (.named []) (table.field? "logging")
  let tenant? : Json → Option (Option String)
    | .null => some none
    | v => (text? v).map some
  return { baseUrl := ← storage.value? 0 "base_url" >>= text?
           timeoutSeconds := ← optional? whole? 30 (storage.value? 1 "timeout_secs")
           tenant := ← optional? tenant? none (storage.value? 2 "tenant")
           filter := ← optional? text? "acqledger=info" (logging.value? 0 "filter")
           logsJson := ← optional? flag? false (logging.value? 1 "json") }

/-- The mode that the program runs in. -/
def modeOf (environment : List (String × String)) : String :=
  ((environment.find? fun v => v.1 == "RUN_MODE").map (·.2)).getD "development"

/-- Loads the settings from the environment and the files whose texts `read?` gives by their paths. -/
def load? (environment : List (String × String)) (read? : String → Option String) : Option Settings := do
  let defaults ← ofFile? (SettingsFile.text? read? "default")
  let ofMode ← ofFile? (SettingsFile.text? read? (modeOf environment))
  ofTable? (overlay (overlay (overlay (.object []) defaults) ofMode) (environment.filterMap ofVariable?))

end Settings

end FundLedger
