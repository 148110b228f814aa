import FundLedger.Decimal.Basic
/-!
# Rounding to fewer digits

Digits are dropped half to even: to the nearest multiple, and from the middle to the even one.

* `quotientHalfEven m d`: the quotient `m / d` rounded that way.
* `Decimal.round`: a decimal with at most so many places.
* `Decimal.fit`: the decimal nearest to an exact result, with as many of its places as there is room for.
-/

namespace FundLedger

/-- The quotient of `m` by `d`, rounded to the nearest number and from the middle to the even one. -/
def quotientHalfEven (m d : Nat) : Nat :=
  if 2 * (m % d) > d ∨ (2 * (m % d) = d ∧ m / d % 2 = 1) then m / d + 1 else m / d

theorem quotientHalfEven_le (m d : Nat) : quotientHalfEven m d ≤ m := by
  unfold quotientHalfEven
  have hd := Nat.div_add_mod m d
  have hq : m / d ≤ m := Nat.div_le_self m d
  split
  · rename_i h
    rcases Nat.eq_zero_or_pos d with rfl | hpos
    · simp_all
      omega
    · have hr : 0 < m % d := by omega
      have : m / d ≤ d * (m / d) := Nat.le_mul_of_pos_left _ hpos
      omega
  · exact hq

namespace Decimal

/-- The decimal with at most `places` digits after the point; none are added. -/
def round (a : Decimal) (places : Nat) : Decimal :=
  if h : a.scale ≤ places then a
  else
    let m := quotientHalfEven a.mantissa (Nat.pow 10 (a.scale - places))
    { negative := a.negative && (a.mantissa == 0 || m != 0)
      mantissa := m
      scale := places
      mantissa_lt := Nat.lt_of_le_of_lt (quotientHalfEven_le _ _) a.mantissa_lt
      scale_le := Nat.le_trans (Nat.le_of_not_le h) a.scale_le }

/-- The exact value `± m / 10 ^ s` as a decimal: the fewest digits are dropped that leave it in range.
`none` when even its integer part has no room. -/
def fit (negative : Bool) (m s : Nat) : Option Decimal :=
  (List.range (s + 1)).findSome? fun dropped =>
    let q := quotientHalfEven m (Nat.pow 10 dropped)
    ofParts? (negative && q != 0) q (s - dropped)

theorem round_of_scale_le {a : Decimal} {places : Nat} (h : a.scale ≤ places) : a.round places = a := by
  simp [round, h]

theorem scale_round {a : Decimal} {places : Nat} (h : ¬a.scale ≤ places) : (a.round places).scale = places := by
  unfold round
  rw [dif_neg h]

theorem mantissa_round {a : Decimal} {places : Nat} (h : ¬a.scale ≤ places) :
    (a.round places).mantissa = quotientHalfEven a.mantissa (Nat.pow 10 (a.scale - places)) := by
  unfold round
  rw [dif_neg h]

theorem negative_round {a : Decimal} {places : Nat} (h : ¬a.scale ≤ places) :
    (a.round places).negative = (a.negative && (a.mantissa == 0 || (a.round places).mantissa != 0)) := by
  unfold round
  rw [dif_neg h]

end Decimal

end FundLedger
