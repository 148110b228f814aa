import FundLedger.Decimal.Binary64
/-!
# JSON values

Objects keep the order in which their members were put; a name occurs once.

* `Json`: the values.
* `Json.field?`: a member of an object by its name.
* `Json.ofMembers`: an object in which the last member of a name counts.
-/

namespace FundLedger

/-- A JSON number: a 64-bit integer, or a double for any other. -/
inductive JsonNumber
  | integer (n : Int)
  | double (x : Binary64)
deriving DecidableEq

/-- A JSON value. -/
inductive Json
  | null
  | bool (b : Bool)
  | number (n : JsonNumber)
  | string (s : String)
  | array (items : List Json)
  | object (members : List (String × Json))
deriving BEq, Inhabited

namespace Json

/-- An integer as a JSON value. -/
def int (n : Int) : Json := .number (.integer n)

/-- The member of this name among the members of an object. -/
def member? (name : String) (members : List (String × Json)) : Option Json :=
  (members.find? fun m => m.1 == name).map (·.2)

/-- The member of an object with this name; `none` also for values that are no objects. -/
def field? (name : String) : Json → Option Json
  | .object members => member? name members
  | _ => none

/-- The text of a string value. -/
def string? : Json → Option String
  | .string s => some s
  | _ => none

/-- The number of an integer value. -/
def int? : Json → Option Int
  | .number (.integer n) => some n
  | _ => none

/-- The items of an array. -/
def items? : Json → Option (List Json)
  | .array items => some items
  | _ => none

/-- Puts a member among the members of an object, in place of one with its name. -/
def putMember (name : String) (value : Json) : List (String × Json) → List (String × Json)
  | [] => [(name, value)]
  | m :: rest => if m.1 == name then (name, value) :: rest else m :: putMember name value rest

/-- The object with these members, the last one of each name. -/
def ofMembers (members : List (String × Json)) : Json :=
  .object (members.foldl (fun acc m => putMember m.1 m.2 acc) [])

end Json

end FundLedger
