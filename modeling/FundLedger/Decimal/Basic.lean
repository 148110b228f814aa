/-!
# Decimals with a scale

A decimal is a sign, a mantissa of at most 96 bits and a scale of at most 28: it stands for
`± mantissa / 10 ^ scale`.  The scale and the sign are part of the number (`1.50` and `1.5` are
different decimals, and so are `0` and `-0`), but comparison is by value.

* `Decimal.units`: the value, counted in units of `10 ^ -28`, so that every decimal has an exact one.
* `a ≈ b`: equal values.  `a < b` and `a ≤ b` compare values.
* `ofParts?`: the decimal with these parts, if they are in range.
-/

namespace FundLedger

/-- `2 ^ 96`: every mantissa is below it. -/
abbrev mantissaLimit : Nat := 79228162514264337593543950336

/-- A decimal number with at most 28 digits after the point. -/
structure Decimal where
  negative : Bool
  mantissa : Nat
  scale : Nat
  mantissa_lt : mantissa < mantissaLimit := by decide
  scale_le : scale ≤ 28 := by decide
deriving DecidableEq

namespace Decimal

/-- The mantissa with its sign. -/
def signed (a : Decimal) : Int :=
  if a.negative then -(a.mantissa : Int) else a.mantissa

/-- The value as a multiple of `10 ^ -28`. -/
def units (a : Decimal) : Int :=
  a.signed * Nat.pow 10 (28 - a.scale)

/-- Two decimals are equivalent when their values are equal. -/
instance : HasEquiv Decimal := ⟨fun a b => a.units = b.units⟩

instance : LT Decimal := ⟨fun a b => a.units < b.units⟩

instance : LE Decimal := ⟨fun a b => a.units ≤ b.units⟩

instance (a b : Decimal) : Decidable (a ≈ b) := inferInstanceAs (Decidable (a.units = b.units))

instance (a b : Decimal) : Decidable (a < b) := inferInstanceAs (Decidable (a.units < b.units))

instance (a b : Decimal) : Decidable (a ≤ b) := inferInstanceAs (Decidable (a.units ≤ b.units))

theorem equiv_iff {a b : Decimal} : a ≈ b ↔ a.units = b.units := Iff.rfl

theorem lt_iff {a b : Decimal} : a < b ↔ a.units < b.units := Iff.rfl

theorem le_iff {a b : Decimal} : a ≤ b ↔ a.units ≤ b.units := Iff.rfl

/-- Zero without decimal places. -/
def zero : Decimal := ⟨false, 0, 0, by decide, by decide⟩

/-- One hundred, the whole of a percentage. -/
def hundred : Decimal := ⟨false, 100, 0, by decide, by decide⟩

instance : Inhabited Decimal := ⟨zero⟩

/-- Whether the value is zero, whatever the sign. -/
def isZero (a : Decimal) : Bool := a.mantissa == 0

/-- The opposite sign on the same mantissa, also for zero. -/
def neg (a : Decimal) : Decimal := { a with negative := !a.negative }

instance : Neg Decimal := ⟨neg⟩

/-- The larger of two decimals, and the first one when their values are equal. -/
def maximum (a b : Decimal) : Decimal := if a < b then b else a

/-- The decimal with these parts, when mantissa and scale are in range. -/
def ofParts? (negative : Bool) (mantissa scale : Nat) : Option Decimal :=
  if h : mantissa < mantissaLimit ∧ scale ≤ 28 then some ⟨negative, mantissa, scale, h.1, h.2⟩ else none

/-- A literal keeps its places: `1.50` has two of them. -/
instance : OfScientific Decimal where
  ofScientific mantissa places? exponent :=
    (if places? then ofParts? false mantissa exponent else ofParts? false (mantissa * Nat.pow 10 exponent) 0).getD zero

section Value

variable (a b : Decimal)

@[simp] theorem units_zero : zero.units = 0 := by decide

@[simp] theorem signed_neg : (-a).signed = -a.signed := by
  change (if (!a.negative) = true then -(a.mantissa : Int) else a.mantissa) =
    -(if a.negative = true then -(a.mantissa : Int) else a.mantissa)
  cases a.negative <;> simp

@[simp] theorem units_neg : (-a).units = -a.units := by
  change (-a).signed * Nat.pow 10 (28 - a.scale) = _
  rw [signed_neg, Int.neg_mul]
  rfl

theorem units_maximum : (maximum a b).units = max a.units b.units := by
  unfold maximum
  split <;> rename_i h <;> rw [lt_iff] at h <;> omega

theorem signed_eq_zero_iff : a.signed = 0 ↔ a.mantissa = 0 := by
  unfold signed
  split <;> omega

theorem units_eq_zero_iff : a.units = 0 ↔ a.mantissa = 0 := by
  unfold units
  rw [Int.mul_eq_zero, signed_eq_zero_iff]
  have hpos : 0 < Nat.pow 10 (28 - a.scale) := Nat.pow_pos (by decide)
  constructor
  · rintro (h | h)
    · exact h
    · omega
  · exact .inl

theorem isZero_iff : a.isZero = true ↔ a.units = 0 := by
  rw [units_eq_zero_iff]
  simp [isZero]

end Value

theorem ofParts?_eq_some {n : Bool} {m s : Nat} {d : Decimal} (h : ofParts? n m s = some d) :
    d.negative = n ∧ d.mantissa = m ∧ d.scale = s := by
  unfold ofParts? at h
  split at h
  · cases h
    exact ⟨rfl, rfl, rfl⟩
  · cases h

end Decimal

end FundLedger
