import FundLedger.Decimal.Arithmetic
import FundLedger.Text.Digits
/-!
# Decimals as text

Written with exactly `scale` digits after the point and a sign whenever the decimal has one, zero included.

Read: an optional sign, then digits with at most one point among them and at least one digit; an underscore may
stand anywhere behind the first digit and means nothing.  When the fraction has no room left (28 places, or a
mantissa of 96 bits), its first digit that does not fit rounds the mantissa half up and the rest is only checked
to be digits.  Behind the 28th place of a mantissa of one word an underscore stands for a digit that rounds down.
What cannot be read like this may also be such a decimal times a power of ten, `1.5e3`.  Zero is read without a sign,
unless a negative decimal became zero for lack of places.

* `Decimal.text`, `Decimal.ofText?`.
-/

namespace FundLedger

namespace Decimal

/-- The digits of the mantissa, with zeros in front so that one digit stands before the point. -/
def digits (a : Decimal) : List Char := padded (a.scale + 1) a.mantissa

/-- The decimal as text. -/
def text (a : Decimal) : String :=
  let ds := a.digits
  let whole := ds.take (ds.length - a.scale)
  let fraction := ds.drop (ds.length - a.scale)
  String.ofList ((if a.negative then ['-'] else []) ++ whole ++ (if a.scale = 0 then [] else '.' :: fraction))

instance : ToString Decimal := ⟨text⟩

/-- The mantissa and scale after rounding half up at `digit`, the first digit that has no room. -/
def roundAtDigit (m s digit : Nat) : Option (Nat × Nat) :=
  let m' := if 5 ≤ digit then m + 1 else m
  if m' < mantissaLimit then some (m', s)
  else if s = 0 then none
  else some ((m' + 4) / 10, s - 1)

/-- Below it, a mantissa is sure to fit 64 bits with one digit more. -/
abbrev wordLimit : Nat := 1844674407370954906

/-- Whether a text may follow the digit that rounds: digits and underscores, none of which count. -/
def isIgnored (cs : List Char) : Bool := cs.all fun c => c.isDigit || c == '_'

/-- Reads digits, a point and underscores onto the mantissa `m` with `s` places; `point` and `digit` tell whether
a point and a digit came before. -/
def scan (m s : Nat) (point digit : Bool) : List Char → Option (Nat × Nat)
  | [] => if digit then some (m, s) else none
  | c :: rest =>
    if c = '_' then
      if !digit then none
      else if point && s == 28 && m / 10 < wordLimit then if isIgnored rest then some (m, s) else none
      else scan m s point digit rest
    else if c = '.' then
      if point then none else scan m s true digit rest
    else
      match digitValue? c with
      | none => none
      | some d =>
        if (point && s == 28) || mantissaLimit ≤ m * 10 + d then
          if point && isIgnored rest then roundAtDigit m s d else none
        else
          scan (m * 10 + d) (if point then s + 1 else s) point true rest

/-- Reads a decimal without an exponent. -/
def ofPlain? (cs : List Char) : Option Decimal := do
  let (negative, body) := match cs with
    | '-' :: rest => (true, rest)
    | '+' :: rest => (false, rest)
    | _ => (false, cs)
  let (m, s) ← scan 0 0 false false body
  ofParts? (negative && m != 0) m s

/-- Drops every trailing zero of the fraction. -/
def trimZeros (m : Nat) : Nat → Nat × Nat
  | 0 => (m, 0)
  | s + 1 => if m % 10 = 0 then trimZeros (m / 10) s else (m, s + 1)

/-- A decimal times `10 ^ exponent`: the point moves right while there are places, and what is left multiplies. -/
def shiftRight? (a : Decimal) (exponent : Nat) : Option Decimal :=
  if exponent ≤ a.scale then ofParts? a.negative a.mantissa (a.scale - exponent)
  else
    match ofParts? false (Nat.pow 10 exponent) 0 with
    | none => none
    | some power =>
      match mul a power with
      | .error _ => none
      | .ok product =>
        let (m, s) := trimZeros product.mantissa product.scale
        ofParts? product.negative m s

/-- A mantissa without its last `k` digits, rounded half up. -/
def dropDigits (m k : Nat) : Nat := (2 * m + Nat.pow 10 k) / (2 * Nat.pow 10 k)

/-- A decimal divided by `10 ^ exponent`, for an exponent of at most 28: there are more places, and what has no room
behind the 28th is rounded half up. -/
def shiftLeft? (a : Decimal) (exponent : Nat) : Option Decimal :=
  if a.scale + exponent ≤ 28 then ofParts? a.negative a.mantissa (a.scale + exponent)
  else ofParts? a.negative (dropDigits a.mantissa (a.scale + exponent - 28)) 28

/-- The number of an exponent, at most 28, with an optional plus sign. -/
def exponent? (cs : List Char) : Option Nat := do
  let n ← natOfDigits? (match cs with | '+' :: rest => rest | _ => cs)
  if n ≤ 28 then some n else none

/-- Reads a decimal with an exponent behind the first `e` or `E`. -/
def ofScientific? (cs : List Char) : Option Decimal := do
  let base ← ofPlain? (cs.takeWhile fun c => c != 'e' && c != 'E')
  match cs.dropWhile fun c => c != 'e' && c != 'E' with
  | [] => none
  | _ :: '-' :: digits =>
    let n ← exponent? digits
    shiftLeft? base n
  | _ :: digits =>
    let n ← exponent? digits
    shiftRight? base n

/-- Reads a decimal, with or without an exponent. -/
def ofText? (s : String) : Option Decimal :=
  (ofPlain? s.toList).or (ofScientific? s.toList)

end Decimal

end FundLedger
