import FundLedger.Text.Digits
/-!
# Identifiers

Every record is named by a 128-bit identifier.  Its written form is 32 lower-case hexadecimal digits with hyphens
behind the 8th, 12th, 16th and 20th; read are also upper-case digits, no hyphens, braces around the hyphenated
form, and `urn:uuid:` in front of it.

* `Uuid`, `Uuid.text`, `Uuid.ofText?`: identifiers, ordered as numbers.
* `Uuid.timeOrdered`: new identifiers.
* `IdKind`, `RecordId`: identifiers of one kind of record.
-/

namespace FundLedger

/-- `2 ^ 128`: every identifier is below it. -/
abbrev uuidLimit : Nat := 0x100000000000000000000000000000000

/-- A 128-bit identifier. -/
structure Uuid where
  value : Nat
  value_lt : value < uuidLimit := by decide
deriving DecidableEq

namespace Uuid

instance : LT Uuid := ⟨fun a b => a.value < b.value⟩

instance (a b : Uuid) : Decidable (a < b) := inferInstanceAs (Decidable (a.value < b.value))

/-- The 32 digits. -/
def digits (a : Uuid) : List Char := zeroPadded 32 (Nat.toDigits 16 a.value)

/-- Puts hyphens behind the 8th, 12th, 16th and 20th of 32 digits. -/
def hyphenated (ds : List Char) : List Char :=
  ds.take 8 ++ '-' :: (ds.drop 8).take 4 ++ '-' :: (ds.drop 12).take 4 ++ '-' :: (ds.drop 16).take 4 ++
    '-' :: ds.drop 20

/-- The written form. -/
def text (a : Uuid) : String := String.ofList (hyphenated a.digits)

/-- Reads 32 digits. -/
def ofDigits? (cs : List Char) : Option Uuid := do
  let n ← natOfHex? cs
  if h : cs.length = 32 ∧ n < uuidLimit then some ⟨n, h.2⟩ else none

/-- Reads the hyphenated form. -/
def ofHyphenated? (cs : List Char) : Option Uuid :=
  let ds := cs.take 8 ++ (cs.drop 9).take 4 ++ (cs.drop 14).take 4 ++ (cs.drop 19).take 4 ++ cs.drop 24
  if hyphenated ds = cs then ofDigits? ds else none

/-- Reads an identifier in any of its forms. -/
def ofText? (s : String) : Option Uuid :=
  let cs := s.toList
  if cs.length = 32 then ofDigits? cs
  else if cs.length = 36 then ofHyphenated? cs
  else if cs.length = 38 ∧ cs.head? = some '\x7b' ∧ cs.getLast? = some '\x7d' then
    ofHyphenated? (cs.drop 1).dropLast
  else if (cs.take 9).map Char.toLower = "urn:uuid:".toList then ofHyphenated? (cs.drop 9)
  else none

/-- The version, as the 13th digit tells it. -/
def version (a : Uuid) : Nat := a.value / 0x10000000000000000000 % 16

/-- A new identifier: the time in front, then the version seven, and random bits around the two of the variant. -/
def timeOrdered (milliseconds random : Nat) : Uuid where
  value := milliseconds % 0x1000000000000 * 0x100000000000000000000 + 0x70000000000000000000 +
    random / 0x4000000000000000 % 0x1000 * 0x10000000000000000 + 0x8000000000000000 + random % 0x4000000000000000
  value_lt := by
    unfold uuidLimit
    omega

theorem version_timeOrdered (milliseconds random : Nat) : (timeOrdered milliseconds random).version = 7 := by
  show (milliseconds % 0x1000000000000 * 0x100000000000000000000 + 0x70000000000000000000 +
    random / 0x4000000000000000 % 0x1000 * 0x10000000000000000 + 0x8000000000000000 +
    random % 0x4000000000000000) / 0x10000000000000000000 % 16 = 7
  omega

end Uuid

/-- What an identifier names. -/
inductive IdKind
  | transaction
  | budget
  | fund
  | ledger
  | fiscalYear
  | group
  | expenseClass
  | groupFundFiscalYear
  | budgetExpenseClass
deriving DecidableEq

/-- An identifier of one kind. -/
structure RecordId (kind : IdKind) where
  uuid : Uuid
deriving DecidableEq

namespace RecordId

variable {kind : IdKind}

instance : LT (RecordId kind) := ⟨fun a b => a.uuid < b.uuid⟩

instance (a b : RecordId kind) : Decidable (a < b) := inferInstanceAs (Decidable (a.uuid < b.uuid))

theorem lt_iff {a b : RecordId kind} : a < b ↔ a.uuid.value < b.uuid.value := Iff.rfl

theorem ext_iff {a b : RecordId kind} : a = b ↔ a.uuid.value = b.uuid.value := by
  obtain ⟨⟨x, hx⟩⟩ := a
  obtain ⟨⟨y, hy⟩⟩ := b
  simp

theorem lt_irrefl (a : RecordId kind) : ¬a < a := Nat.lt_irrefl _

theorem lt_trans {a b c : RecordId kind} (h : a < b) (h' : b < c) : a < c := Nat.lt_trans h h'

theorem lt_of_not_lt_of_ne {a b : RecordId kind} (h : ¬a < b) (hne : a ≠ b) : b < a := by
  rw [Ne, ext_iff] at hne
  rw [lt_iff] at h ⊢
  omega

/-- The written form. -/
def text (a : RecordId kind) : String := a.uuid.text

instance : ToString (RecordId kind) := ⟨text⟩

instance (n : Nat) : OfNat (RecordId kind) n := ⟨⟨⟨n % uuidLimit, Nat.mod_lt n (Nat.zero_lt_succ _)⟩⟩⟩

/-- Reads an identifier. -/
def ofText? (s : String) : Option (RecordId kind) := (Uuid.ofText? s).map RecordId.mk

end RecordId

/-- Identifies a transaction. -/
abbrev TransactionId := RecordId .transaction

/-- Identifies a budget. -/
abbrev BudgetId := RecordId .budget

/-- Identifies a fund. -/
abbrev FundId := RecordId .fund

/-- Identifies a ledger. -/
abbrev LedgerId := RecordId .ledger

/-- Identifies a fiscal year. -/
abbrev FiscalYearId := RecordId .fiscalYear

/-- Identifies a group of funds. -/
abbrev GroupId := RecordId .group

/-- Identifies an expense class. -/
abbrev ExpenseClassId := RecordId .expenseClass

/-- Identifies a link between a group, a fund and a fiscal year. -/
abbrev GroupFundFiscalYearId := RecordId .groupFundFiscalYear

/-- Identifies a link between a budget and an expense class. -/
abbrev BudgetExpenseClassId := RecordId .budgetExpenseClass

end FundLedger
