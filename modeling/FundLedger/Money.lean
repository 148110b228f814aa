import FundLedger.Decimal.Quotient
import FundLedger.Decimal.Text
import FundLedger.Text.UpperCase
/-!
# Currencies and money

An amount is kept at full precision until it is stored or shown; then it is rounded, half to even, to the minor
unit of its currency.

* `Currency`, `Currency.minorUnits`, `Currency.round`.
* `Money`: an amount with its currency; `Money.sum` adds without rounding.
* `percentage`: the share of a part in a whole, to two places.
-/

namespace FundLedger

/-- The currencies that amounts can be in. -/
inductive Currency
  | usd | eur | gbp | cad | aud | chf | sgd | idr | jpy | krw | bhd | kwd
deriving DecidableEq

namespace Currency

/-- Amounts without any record of a currency count as US dollars. -/
instance : Inhabited Currency := ⟨usd⟩

/-- Every currency. -/
def all : List Currency := [usd, eur, gbp, cad, aud, chf, sgd, idr, jpy, krw, bhd, kwd]

/-- The three-letter code. -/
def code : Currency → String
  | usd => "USD" | eur => "EUR" | gbp => "GBP" | cad => "CAD" | aud => "AUD" | chf => "CHF"
  | sgd => "SGD" | idr => "IDR" | jpy => "JPY" | krw => "KRW" | bhd => "BHD" | kwd => "KWD"

/-- The number of places of the minor unit. -/
def minorUnits : Currency → Nat
  | jpy | krw => 0
  | bhd | kwd => 3
  | usd | eur | gbp | cad | aud | chf | sgd | idr => 2

/-- The currency with this code, exactly as written. -/
def ofCode? (s : String) : Option Currency := all.find? fun c => c.code == s

/-- The currency with this code in any case. -/
def ofText? (s : String) : Option Currency := ofCode? (upperCase s)

/-- An amount rounded to the minor unit. -/
def round (c : Currency) (amount : Decimal) : Decimal := amount.round c.minorUnits

/-- The message about a code that no currency has. -/
def unknownMessage (s : String) : String := "Unknown currency: " ++ s

end Currency

/-- An amount of some currency. -/
structure Money where
  amount : Decimal
  currency : Currency
deriving DecidableEq

namespace Money

/-- Nothing of a currency. -/
def zero (currency : Currency) : Money := ⟨.zero, currency⟩

/-- Whether the amount is zero. -/
def isZero (m : Money) : Bool := m.amount.isZero

/-- Whether the amount is below zero. -/
def isNegative (m : Money) : Bool := m.amount.negative && !m.amount.isZero

/-- The amount rounded to its minor unit. -/
def rounded (m : Money) : Money := ⟨m.currency.round m.amount, m.currency⟩

/-- The sum of some amounts, not rounded. -/
def sum (amounts : List Decimal) (currency : Currency) : Except Overflow Money :=
  (Decimal.sum amounts).map fun total => ⟨total, currency⟩

/-- The amount followed by the code of its currency. -/
def text (m : Money) : String := m.amount.text ++ " " ++ m.currency.code

/-- Equal by value and in one currency. -/
instance : HasEquiv Money := ⟨fun a b => a.amount ≈ b.amount ∧ a.currency = b.currency⟩

instance (a b : Money) : Decidable (a ≈ b) :=
  inferInstanceAs (Decidable (a.amount ≈ b.amount ∧ a.currency = b.currency))

end Money

/-- How many percent of `whole` are `part`, to two places; nothing when `whole` is zero. -/
def percentage (part whole : Decimal) : Except Overflow (Option Decimal) :=
  if whole.isZero then .ok none
  else do
    let share ← part.div whole
    let percent ← share.mul .hundred
    return some (percent.round 2)

end FundLedger
