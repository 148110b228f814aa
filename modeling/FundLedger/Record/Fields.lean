import FundLedger.Instant
import FundLedger.Json.Basic
import FundLedger.Money
import FundLedger.Ident
/-!
# Fields of records

A record is written as a JSON object.  It is read from an object, whose other members do not matter, or from an
array of its fields in their order.

* `JsonForm`: types with a JSON form.
* `Fields`: where the fields of a record come from, and how they are read: required, with a default, or optional.
* `JsonForm` of amounts, identifiers, currencies, instants and lists.
-/

namespace FundLedger

/-- Values that are written as JSON and read from it. -/
class JsonForm (α : Type) where
  /-- The JSON form. -/
  encode : α → Json
  /-- The value of a JSON form. -/
  decode? : Json → Option α

/-- The fields of a record: members of an object, or items of an array. -/
inductive Fields
  | named (members : List (String × Json))
  | listed (items : List Json)

namespace Fields

variable {α : Type}

/-- The fields of a record that may only be an object. -/
def ofObject? : Json → Option Fields
  | .object members => some (.named members)
  | _ => none

/-- The fields of a record with `count` fields. -/
def ofJson? (count : Nat) : Json → Option Fields
  | .object members => some (.named members)
  | .array items => if items.length ≤ count then some (.listed items) else none
  | _ => none

/-- The fields of a record that may have more items than fields. -/
def ofAnyLength? : Json → Option Fields
  | .object members => some (.named members)
  | .array items => some (.listed items)
  | _ => none

/-- The field at a position, or with a name. -/
def value? (position : Nat) (name : String) : Fields → Option Json
  | named members => Json.member? name members
  | listed items => items[position]?

/-- A field that has to be there. -/
def required [JsonForm α] (fields : Fields) (position : Nat) (name : String) : Option α :=
  (fields.value? position name).bind JsonForm.decode?

/-- A field with a value for when it is missing. -/
def withDefault [JsonForm α] (fields : Fields) (position : Nat) (name : String) (default : α) : Option α :=
  match fields.value? position name with
  | none => some default
  | some value => JsonForm.decode? value

/-- A field that may be missing or null. -/
def optional [JsonForm α] (fields : Fields) (position : Nat) (name : String) : Option (Option α) :=
  match fields.value? position name with
  | none => some none
  | some .null => some none
  | some value => (JsonForm.decode? value).map some

/-- A field that may be null, and missing from an object. -/
def nullable [JsonForm α] (fields : Fields) (position : Nat) (name : String) : Option (Option α) :=
  match fields, fields.value? position name with
  | .listed _, none => none
  | _, none => some none
  | _, some .null => some none
  | _, some value => (JsonForm.decode? value).map some

end Fields

/-- A member that is left out when there is no value. -/
def memberIfSome {α : Type} [JsonForm α] (name : String) : Option α → List (String × Json)
  | none => []
  | some a => [(name, JsonForm.encode a)]

/-- The value whose name is given: as a string, or as an object whose only member has this name and is null. -/
def named? {α : Type} (all : List α) (name : α → String) (value : Json) : Option α :=
  match value with
  | .string s => all.find? fun a => name a == s
  | .object [(s, .null)] => all.find? fun a => name a == s
  | _ => none

/-- A decimal is written as text; numbers are read as well. -/
def Decimal.ofJson? : Json → Option Decimal
  | .string s => Decimal.ofText? s
  | .number (.integer n) => Decimal.ofParts? (decide (n < 0)) n.natAbs 0
  | .number (.double x) => Decimal.ofText? x.plainText
  | _ => none

instance : JsonForm Decimal := ⟨fun d => .string d.text, Decimal.ofJson?⟩

instance {kind : IdKind} : JsonForm (RecordId kind) := ⟨fun id => .string id.text, fun v => v.string?.bind RecordId.ofText?⟩

instance : JsonForm Instant := ⟨fun t => .string t.text, fun v => v.string?.bind Instant.ofText?⟩

instance : JsonForm String := ⟨.string, Json.string?⟩

/-- A whole number of 64 bits with a sign. -/
instance : JsonForm Int64 where
  encode n := .int n.toInt
  decode? v := v.int?.bind fun n =>
    if -9223372036854775808 ≤ n ∧ n < 9223372036854775808 then some (.ofInt n) else none

instance : JsonForm Currency := ⟨fun c => .string c.code, named? Currency.all Currency.code⟩

instance {α : Type} [JsonForm α] : JsonForm (List α) :=
  ⟨fun as => .array (as.map JsonForm.encode), fun v => v.items?.bind fun items => items.mapM JsonForm.decode?⟩

instance : JsonForm Money where
  encode m := .object [("amount", JsonForm.encode m.amount), ("currency", JsonForm.encode m.currency)]
  decode? v := do
    let f ← Fields.ofJson? 2 v
    return ⟨← f.required 0 "amount", ← f.required 1 "currency"⟩

end FundLedger
