/-!
# Digits

* `digitValue?`, `hexValue?`: the value of a decimal or hexadecimal digit, in either case.
* `natOfDigits?`, `natOfHex?`: the number of a non-empty run of digits.
* `padded`: the decimal digits of a number, with zeros in front up to a width.
-/

namespace FundLedger

/-- The value of a decimal digit. -/
def digitValue? (c : Char) : Option Nat :=
  if c.isDigit then some (c.toNat - '0'.toNat) else none

/-- The value of a hexadecimal digit. -/
def hexValue? (c : Char) : Option Nat :=
  if c.isDigit then some (c.toNat - '0'.toNat)
  else if 'a' ≤ c ∧ c ≤ 'f' then some (c.toNat - 'a'.toNat + 10)
  else if 'A' ≤ c ∧ c ≤ 'F' then some (c.toNat - 'A'.toNat + 10)
  else none

/-- The number that a non-empty run of digits of some base stands for. -/
def natOfBase? (base : Nat) (value? : Char → Option Nat) : List Char → Option Nat
  | [] => none
  | cs => cs.foldlM (fun n c => (value? c).map (n * base + ·)) 0

/-- The number that a non-empty run of decimal digits stands for. -/
def natOfDigits? (cs : List Char) : Option Nat := natOfBase? 10 digitValue? cs

/-- The number that a non-empty run of hexadecimal digits stands for. -/
def natOfHex? (cs : List Char) : Option Nat := natOfBase? 16 hexValue? cs

/-- Zeros in front of some digits, up to a width. -/
def zeroPadded (width : Nat) (ds : List Char) : List Char :=
  List.replicate (width - ds.length) '0' ++ ds

/-- The decimal digits of a number, with zeros in front up to a width. -/
def padded (width n : Nat) : List Char := zeroPadded width (Nat.toDigits 10 n)

end FundLedger
