import FundLedger.Json.Basic
/-!
# Writing JSON text

The compact text has no blanks and the members of an object in ascending order of their names.  The indented text
has two spaces a level and keeps the order of the members.  A double is written with its shortest digits:
positionally from `1e-5` up to `1e16`, always with a point, and else with an exponent and its sign.

* `Json.compact`, `Json.indented`.
-/

namespace FundLedger

namespace Json

/-- A digit of base sixteen, lower case. -/
def hexDigit (n : Nat) : Char :=
  if n < 10 then Char.ofNat ('0'.toNat + n) else Char.ofNat ('a'.toNat + n - 10)

/-- A character inside a JSON string. -/
def escape (c : Char) : List Char :=
  if c = '"' then ['\\', '"']
  else if c = '\\' then ['\\', '\\']
  else if c = '\x08' then ['\\', 'b']
  else if c = '\x0c' then ['\\', 'f']
  else if c = '\n' then ['\\', 'n']
  else if c = '\r' then ['\\', 'r']
  else if c = '\t' then ['\\', 't']
  else if c.toNat < 32 then ['\\', 'u', '0', '0', hexDigit (c.toNat / 16), hexDigit (c.toNat % 16)]
  else [c]

/-- A string in quotes. -/
def quoted (s : String) : String :=
  String.ofList ('"' :: s.toList.flatMap escape ++ ['"'])

/-- A double: positional where the power of its first digit is from -5 to 15, and else with an exponent. -/
def doubleText (x : Binary64) : String :=
  let (d, p) := x.shortest
  let ds := Nat.toDigits 10 d
  let front : Int := ds.length + p
  let body :=
    if d = 0 then "0.0".toList
    else if -5 < front ∧ front ≤ 16 then
      Binary64.positional d p ++ (if 0 ≤ p then ['.', '0'] else [])
    else
      ds.take 1 ++ (if ds.length = 1 then [] else '.' :: ds.drop 1) ++ 'e' ::
        (if 0 < front then '+' else '-') :: Nat.toDigits 10 (front - 1).natAbs
  String.ofList (x.signText ++ body)

/-- A number as JSON text. -/
def numberText : JsonNumber → String
  | .integer n => toString n
  | .double x => doubleText x

/-- The order of members by their names. -/
def nameLE (a b : String × String) : Bool := decide (a.1 < b.1) || a.1 == b.1

mutual

/-- The text without blanks, members in order of their names. -/
def compact : Json → String
  | .null => "null"
  | .bool b => if b then "true" else "false"
  | .number n => numberText n
  | .string s => quoted s
  | .array items => "[" ++ ",".intercalate (compactItems items) ++ "]"
  | .object members =>
    "\x7b" ++ ",".intercalate (((compactMembers members).mergeSort nameLE).map fun m => quoted m.1 ++ ":" ++ m.2)
      ++ "\x7d"

/-- The compact texts of some values. -/
def compactItems : List Json → List String
  | [] => []
  | item :: rest => compact item :: compactItems rest

/-- The names of some members with the compact texts of their values. -/
def compactMembers : List (String × Json) → List (String × String)
  | [] => []
  | (name, value) :: rest => (name, compact value) :: compactMembers rest

end

/-- A line end and two spaces for each level. -/
def newline (level : Nat) : String := String.ofList ('\n' :: List.replicate (2 * level) ' ')

/-- The parts of an array or object on lines of their own. -/
def block (level : Nat) (opening closing : String) (parts : List String) : String :=
  if parts.isEmpty then opening ++ closing
  else opening ++ newline (level + 1) ++ ("," ++ newline (level + 1)).intercalate parts ++ newline level ++ closing

mutual

/-- The text with a line for each item and member, at some level of indentation. -/
def indentedAt (level : Nat) : Json → String
  | .null => "null"
  | .bool b => if b then "true" else "false"
  | .number n => numberText n
  | .string s => quoted s
  | .array items => block level "[" "]" (indentedItems (level + 1) items)
  | .object members => block level "\x7b" "\x7d" (indentedMembers (level + 1) members)

/-- The indented texts of some values. -/
def indentedItems (level : Nat) : List Json → List String
  | [] => []
  | item :: rest => indentedAt level item :: indentedItems level rest

/-- The indented texts of some members. -/
def indentedMembers (level : Nat) : List (String × Json) → List String
  | [] => []
  | (name, value) :: rest => (quoted name ++ ": " ++ indentedAt level value) :: indentedMembers level rest

end

/-- The indented text of a value. -/
def indented (value : Json) : String := indentedAt 0 value

end Json

end FundLedger
