import FundLedger.Decimal.Rounding
/-!
# Sums, differences and products

Results are exact when there is room for all their digits; otherwise the last digits are dropped half to
even, and a result whose integer part has no room is an overflow.  An operation with a zero operand returns
the other operand as it is.

* `Overflow`: which operation had no room.
* `add`, `sub`, `mul`, `sum`.
-/

namespace FundLedger

/-- The operation whose result has no room in a decimal. -/
inductive Overflow
  | addition
  | subtraction
  | multiplication
  | division
deriving DecidableEq

/-- The text of an overflow. -/
def Overflow.message : Overflow → String
  | addition => "Addition overflowed"
  | subtraction => "Subtraction overflowed"
  | multiplication => "Multiplication overflowed"
  | division => "Division overflowed"

namespace Decimal

/-- The mantissa with its sign when the decimal is written with `s` places. -/
def signedAt (a : Decimal) (s : Nat) : Int := a.signed * Nat.pow 10 (s - a.scale)

/-- The decimal nearest to `x / 10 ^ s`, or the overflow of `operation`. -/
def ofScaled (operation : Overflow) (x : Int) (s : Nat) : Except Overflow Decimal :=
  match fit (decide (x < 0)) x.natAbs s with
  | some d => .ok d
  | none => .error operation

/-- The sum of two decimals, blaming `operation` when it has no room. -/
def addAs (operation : Overflow) (a b : Decimal) : Except Overflow Decimal :=
  if a.mantissa = 0 then .ok b
  else if b.mantissa = 0 then .ok a
  else
    let s := max a.scale b.scale
    ofScaled operation (a.signedAt s + b.signedAt s) s

/-- The sum `a + b`. -/
def add (a b : Decimal) : Except Overflow Decimal := addAs .addition a b

/-- The difference `a - b`. Of two zeros it is the second one. -/
def sub (a b : Decimal) : Except Overflow Decimal :=
  if b.mantissa = 0 then .ok (if a.mantissa = 0 then b else a) else addAs .subtraction a (-b)

/-- The product `a * b`. -/
def mul (a b : Decimal) : Except Overflow Decimal :=
  if a.mantissa = 0 ∨ b.mantissa = 0 then .ok zero
  else
    match fit (a.negative ^^ b.negative) (a.mantissa * b.mantissa) (a.scale + b.scale) with
    | some d => .ok d
    | none => .error .multiplication

/-- The sum of a list, from the left. -/
def sum (amounts : List Decimal) : Except Overflow Decimal := amounts.foldlM add zero

theorem zero_add (a : Decimal) : add zero a = .ok a := by
  simp [add, addAs, zero]

end Decimal

end FundLedger
