import FundLedger.Decimal.Arithmetic
/-!
# Quotients

Long division, nine digits at a time at most, until the remainder is zero, the result has 28 places or its
mantissa is full; the last digit is then rounded half to even.  Where the last digits added have no room, the
quotient is rounded half to even to one place less.  An inexact quotient loses some of its trailing
zeros: the blocks of eight, four, two and one zeros that are found in this order.

* `digitsToAdd`: how many digits one round of the division adds.
* `longDivision`: the rounds.
* `div`: the quotient of two decimals.
-/

namespace FundLedger

namespace Decimal

/-- How many digits the next round adds to the quotient `q` with remainder `r` and so many places: what is missing
to an integer when nothing remains, and else as many as fit, in either case nine at most. -/
def digitsToAdd (q r : Nat) (places : Int) : Nat :=
  if r = 0 then min 9 (-places).toNat
  else
    ((List.range (min 9 (28 - places).toNat + 1)).reverse.find? fun p => q * Nat.pow 10 p < mantissaLimit).getD 0

theorem digitsToAdd_le (q r : Nat) (places : Int) : digitsToAdd q r places ≤ (28 - places).toNat := by
  unfold digitsToAdd
  split
  · omega
  · generalize hf : List.find? _ _ = found
    cases found with
    | none => simp
    | some p =>
      have := List.mem_of_find?_eq_some hf
      simp only [List.mem_reverse, List.mem_range] at this
      simp only [Option.getD_some]
      omega

/-- The quotient `(q * divisor + r) / divisor` with one place less than `places`, rounded half to even. -/
def oneDigitLess (divisor q r : Nat) (places : Int) : Option (Nat × Int × Bool) :=
  if 0 < places then some (quotientHalfEven (q * divisor + r) (10 * divisor), places - 1, true) else none

/-- The rounds of a division by `divisor`, from a quotient, a remainder and a number of places (below zero when
digits before the point are missing).  The result tells the quotient, its places and whether anything remained.
`none` when the quotient has no room. -/
def longDivision (divisor q r : Nat) (places : Int) (inexact : Bool) : Option (Nat × Int × Bool) :=
  if r = 0 ∧ 0 ≤ places then some (q, places, inexact)
  else
    let p := digitsToAdd q r places
    if r ≠ 0 ∧ p < 9 ∧ p + places < 0 then none
    else if _h : p = 0 then
      let rounded := quotientHalfEven (q * divisor + r) divisor
      if rounded < mantissaLimit then some (rounded, places, true) else oneDigitLess divisor q r places
    else
      let q' := q * Nat.pow 10 p + r * Nat.pow 10 p / divisor
      let r' := r * Nat.pow 10 p % divisor
      if q' < mantissaLimit then longDivision divisor q' r' (places + p) (inexact || r != 0)
      else if r = 0 then none
      else oneDigitLess divisor q' r' (places + p)
termination_by (28 - places).toNat
decreasing_by
  have := digitsToAdd_le q r places
  omega

/-- Drops blocks of eight trailing zeros while the mantissa is also a multiple of `2 ^ 32`. -/
def dropEightZeros (q places : Nat) : Nat × Nat :=
  if q % 4294967296 = 0 ∧ 8 ≤ places ∧ q % 100000000 = 0 then dropEightZeros (q / 100000000) (places - 8)
  else (q, places)
termination_by places

/-- Drops `k` trailing zeros, if there are that many. -/
def dropZeros (k : Nat) (number : Nat × Nat) : Nat × Nat :=
  if k ≤ number.2 ∧ number.1 % Nat.pow 10 k = 0 then (number.1 / Nat.pow 10 k, number.2 - k) else number

/-- A mantissa and its places without the trailing zeros that an inexact quotient loses. -/
def dropQuotientZeros (q places : Nat) : Nat × Nat :=
  dropZeros 1 (dropZeros 2 (dropZeros 4 (dropEightZeros q places)))

/-- The quotient `a / b`, for `b` other than zero. -/
def div (a b : Decimal) : Except Overflow Decimal :=
  if a.mantissa = 0 then .ok zero
  else
    match longDivision b.mantissa (a.mantissa / b.mantissa) (a.mantissa % b.mantissa)
      ((a.scale : Int) - b.scale) false with
    | none => .error .division
    | some (q, places, inexact) =>
      let (m, s) := if inexact then dropQuotientZeros q places.toNat else (q, places.toNat)
      match ofParts? ((a.negative ^^ b.negative) && m != 0) m s with
      | some d => .ok d
      | none => .error .division

end Decimal

end FundLedger
