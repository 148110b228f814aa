import FundLedger.Decimal.Rounding
import FundLedger.Text.Digits
/-!
# Double precision numbers, exactly

A finite double is `± significand * 2 ^ exponent` with a significand below `2 ^ 53`.  Every operation gives the double
nearest to the exact result.  A double is written with the fewest digits that are nearest to no other double; of
several such decimals it is the nearest one.  All of it is done in integers.

* `Binary64.ofNat?`, `Binary64.mul?`, `Binary64.div?`: the nearest double, unless that is infinite.
* `Binary64.scaled?`: digits times a power of ten, in two roundings.
* `Binary64.shortest`: the digits and the power of ten.
* `Binary64.plainText`: those digits without an exponent.
* `Binary64.roundToNat`: the nearest natural number.
-/

namespace FundLedger

/-- A finite double precision number. -/
structure Binary64 where
  negative : Bool
  significand : Nat
  exponent : Int
deriving DecidableEq

namespace Binary64

/-- The double nearest to `± num / den`, for positive `num` and `den`; `none` beyond the largest one. -/
def ofRatio? (negative : Bool) (num den : Nat) : Option Binary64 :=
  let guess : Int := (num.log2 : Int) - den.log2 - 53
  let quotient (q : Int) : Nat := quotientHalfEven (num * Nat.pow 2 (-q).toNat) (den * Nat.pow 2 q.toNat)
  let floor : Nat := num * Nat.pow 2 (-guess).toNat / (den * Nat.pow 2 guess.toNat)
  let q := max (-1074) (if Nat.pow 2 53 ≤ floor then guess + 1 else guess)
  let m := quotient q
  let rounded : Binary64 := if m = Nat.pow 2 53 then ⟨negative, Nat.pow 2 52, q + 1⟩ else ⟨negative, m, q⟩
  if rounded.exponent ≤ 971 then some rounded else none

/-- The double nearest to a natural number. -/
def ofNat? (negative : Bool) (n : Nat) : Option Binary64 :=
  if n = 0 then some ⟨negative, 0, -1074⟩ else ofRatio? negative n 1

/-- The magnitude as a fraction. -/
def ratio (x : Binary64) : Nat × Nat :=
  (x.significand * Nat.pow 2 x.exponent.toNat, Nat.pow 2 (-x.exponent).toNat)

/-- The product of two doubles. -/
def mul? (x y : Binary64) : Option Binary64 :=
  let negative := x.negative ^^ y.negative
  if x.significand = 0 ∨ y.significand = 0 then some ⟨negative, 0, -1074⟩
  else ofRatio? negative (x.ratio.1 * y.ratio.1) (x.ratio.2 * y.ratio.2)

/-- The quotient of two doubles, for a divisor other than zero. -/
def div? (x y : Binary64) : Option Binary64 :=
  let negative := x.negative ^^ y.negative
  if x.significand = 0 then some ⟨negative, 0, -1074⟩
  else ofRatio? negative (x.ratio.1 * y.ratio.2) (x.ratio.2 * y.ratio.1)

/-- The largest exponent of a power of ten among the doubles. -/
abbrev largestPower : Nat := 308

/-- Divides by a power of ten, by the largest one as long as that does not do. -/
def divPower? (x : Binary64) (k : Nat) : Option Binary64 :=
  if _h : largestPower < k then
    if x.significand = 0 then some x
    else do (← x.div? (← ofNat? false (Nat.pow 10 largestPower))).divPower? (k - largestPower)
  else do x.div? (← ofNat? false (Nat.pow 10 k))
termination_by k
decreasing_by exact Nat.sub_lt (by omega) (by decide)

/-- The number `± m * 10 ^ e`: `m` is rounded to a double, and so is its product with or quotient by a power of ten. -/
def scaled? (negative : Bool) (m : Nat) (e : Int) : Option Binary64 := do
  let x ← ofNat? negative m
  if e < 0 then x.divPower? (-e).toNat
  else if e ≤ largestPower then x.mul? (← ofNat? false (Nat.pow 10 e.toNat))
  else if m = 0 then some x
  else none

/-- Moves trailing zeros of the digits into the power of ten; `fuel` bounds how many. -/
def dropTrailing : Nat → Nat × Int → Nat × Int
  | 0, number => number
  | fuel + 1, (d, p) => if d ≠ 0 ∧ d % 10 = 0 then dropTrailing fuel (d / 10, p + 1) else (d, p)

/-- The shortest decimal that reads back as this double: its digits and its power of ten.

The doubles around `f * 2 ^ q` are half a unit away, or a quarter below a power of two; everything is counted in
quarters.  For each number of digits the two neighbours of the value on that decimal grid are tried. -/
def shortest (x : Binary64) : Nat × Int :=
  if x.significand = 0 then (0, 0)
  else
    let value := 4 * x.significand
    let low := value - (if x.significand = Nat.pow 2 52 ∧ -1074 < x.exponent then 1 else 2)
    let high := value + 2
    let scaleUp := Nat.pow 2 (x.exponent - 2).toNat
    let scaleDown := Nat.pow 2 (2 - x.exponent).toNat
    let magnitude : Int := (Nat.toDigits 10 (value * scaleUp * Nat.pow 10 400 / scaleDown)).length - 401
    let onGrid (count : Nat) : Option (Nat × Int) :=
      let p : Int := magnitude + 1 - count
      let unit := Nat.pow 10 p.toNat * scaleDown
      let up := scaleUp * Nat.pow 10 (-p).toNat
      let inside (d : Nat) : Bool :=
        if x.significand % 2 = 0 then low * up ≤ d * unit && d * unit ≤ high * up
        else low * up < d * unit && d * unit < high * up
      let d := value * up / unit
      let below := value * up - d * unit
      let above := (d + 1) * unit - value * up
      let preferNext : Bool := above < below || (above == below && d % 2 == 1)
      if inside d && inside (d + 1) then some (if preferNext then d + 1 else d, p)
      else if inside d then some (d, p)
      else if inside (d + 1) then some (d + 1, p)
      else none
    dropTrailing 20 (((List.range 17).findSome? fun n => onGrid (n + 1)).getD (x.significand, 0))

/-- The digits of `d * 10 ^ p` with a point where it belongs, and no exponent. -/
def positional (d : Nat) (p : Int) : List Char :=
  let places := (-p).toNat
  let ds := padded (places + 1) d ++ List.replicate p.toNat '0'
  let whole := ds.take (ds.length - places)
  if places = 0 then whole else whole ++ '.' :: ds.drop (ds.length - places)

/-- The sign, as it is written. -/
def signText (x : Binary64) : List Char := if x.negative then ['-'] else []

/-- The shortest decimal without an exponent. -/
def plainText (x : Binary64) : String :=
  let (d, p) := x.shortest
  String.ofList (x.signText ++ positional d p)

/-- The nearest natural number, halves away from zero; zero for negative numbers. -/
def roundToNat (x : Binary64) : Nat :=
  if x.negative then 0
  else
    let num := x.significand * Nat.pow 2 x.exponent.toNat
    let den := Nat.pow 2 (-x.exponent).toNat
    (2 * num + den) / (2 * den)

end Binary64

end FundLedger
