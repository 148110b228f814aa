import FundLedger.Json.Basic
import FundLedger.Text.Digits
import FundLedger.Text.Parts
/-!
# Paths to settings

A setting is named by a path: a name, and behind it names with a point in front or places in a list in brackets.  A
place below zero counts from the end of the list.  What a path needs and is not there yet is made: a table for a name,
and a list, filled with nulls, for a place.

* `SettingPath`, `SettingPath.ofKey`: paths, and the path that a key stands for.
* `mergeOnto`: a value put over another one, tables being merged.
* `SettingPath.put`: a value put at a path.
-/

namespace FundLedger

/-- A step of a path. -/
inductive PathStep
  | member (name : String)
  | item (index : Int)
deriving DecidableEq

/-- A path to a setting. -/
abbrev SettingPath : Type := List PathStep

/-! ## Keys -/

namespace SettingPath

/-- Whether a character may stand in a name. -/
def isNameChar (c : Char) : Bool := c.isAlphanum || c == '_' || c == '-'

/-- A name, which may not be empty. -/
def name? (cs : List Char) : Option PathStep :=
  if cs.isEmpty || !cs.all isNameChar then none else some (.member (String.ofList cs))

/-- A place in a list of at most 64 bits, with blanks around it. -/
def index? (cs : List Char) : Option PathStep :=
  let isSpace (c : Char) : Bool := c == ' ' || c == '\t'
  let inner := ((cs.dropWhile isSpace).reverse.dropWhile isSpace).reverse
  match inner with
  | '-' :: ds => ((natOfDigits? ds).filter (· ≤ 9223372036854775808)).map fun n => .item (-(n : Int))
  | ds => ((natOfDigits? ds).filter (· < 9223372036854775808)).map fun n => .item n

/-- The places in brackets behind a name. -/
def indices? (parts : List (List Char)) : Option SettingPath :=
  parts.mapM fun part => if part.getLast? = some ']' then index? part.dropLast else none

/-- A name with places in brackets behind it. -/
def segment? (cs : List Char) : Option SettingPath :=
  match splitAtChar '[' cs with
  | [] => none
  | name :: parts => do return (← name? name) :: (← indices? parts)

/-- The path that a key stands for; a key that is no path is a name itself. -/
def ofKey (key : String) : SettingPath :=
  match (splitAtChar '.' key.toList).mapM segment? with
  | some segments => segments.flatten
  | none => [.member key]

end SettingPath

/-! ## Values -/

/-- The members of a table; of anything else, none. -/
def membersOf : Json → List (String × Json)
  | .object members => members
  | _ => []

/-- The items of a list; of anything else, none. -/
def itemsOf : Json → List Json
  | .array items => items
  | _ => []

mutual

/-- Puts a value over another one.  A table is merged with a table, and takes the place of anything else. -/
def mergeOnto (old : Json) (value : Json) : Json :=
  match value with
  | .object members => .object (mergeMembers (membersOf old) members)
  | value => value

/-- Puts values over the members of a table. -/
def mergeMembers (table : List (String × Json)) (members : List (String × Json)) : List (String × Json) :=
  match members with
  | [] => table
  | (name, value) :: rest =>
    mergeMembers (Json.putMember name (mergeOnto ((Json.member? name table).getD .null) value) table) rest

end

/-- A list in which there is an item at a place, and the number of that item. -/
def reach (items : List Json) (index : Int) : List Json × Nat :=
  let missing := (-index).toNat - items.length
  let items := List.replicate (if index < 0 then missing else 0) .null ++ items
  let position := if index < 0 then items.length - (-index).toNat else index.toNat
  (items ++ List.replicate (position + 1 - items.length) .null, position)

/-- Puts a value at a path below another value. -/
def SettingPath.put (value : Json) (old : Json) : SettingPath → Json
  | [] => mergeOnto old value
  | .member name :: rest =>
    let table := membersOf old
    .object (Json.putMember name (put value ((Json.member? name table).getD .null) rest) table)
  | .item index :: rest =>
    let (items, position) := reach (itemsOf old) index
    .array (items.set position (put value (items[position]?.getD .null) rest))

end FundLedger
