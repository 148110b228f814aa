import FundLedger.Text.Digits
import FundLedger.Text.Parts
/-!
# Tables of characters

A property of characters is kept as runs of code points.  In the text of a table a run is `first-last/step:values`
in hexadecimal digits, the values with a `+` between them; `-last`, `/step` and `:values` may be missing.

* `CodeRun`, `CodeTable`: the runs.
* `CodeTable.ofLines`: the table that some lines hold.
* `CodeTable.find?`, `CodeTable.contains`: the run in which a character is.
-/

namespace FundLedger

/-- Every `step`th code point from `first` to `last`, and what is kept about them. -/
structure CodeRun where
  first : Nat
  last : Nat
  step : Nat
  values : List Nat
deriving DecidableEq

namespace CodeRun

/-- Whether a code point is one of the run. -/
def has (r : CodeRun) (n : Nat) : Bool := r.first ≤ n && n ≤ r.last && (n - r.first) % r.step == 0

/-- The run that a text stands for. -/
def ofText? (cs : List Char) : Option CodeRun := do
  let (span, values) := cutAtChar ':' cs
  let (range, step) := cutAtChar '/' span
  let (first, last) := cutAtChar '-' range
  let first ← natOfHex? first
  return { first
           last := (natOfHex? last).getD first
           step := (natOfHex? step).getD 1
           values := (splitAtChar '+' values).filterMap natOfHex? }

end CodeRun

/-- The runs of a property. -/
abbrev CodeTable : Type := List CodeRun

namespace CodeTable

/-- The table that some lines hold. -/
def ofLines (lines : List String) : CodeTable :=
  lines.flatMap fun line => (splitAtChar ' ' line.toList).filterMap CodeRun.ofText?

/-- The run in which a character is. -/
def find? (t : CodeTable) (c : Char) : Option CodeRun := List.find? (·.has c.toNat) t

/-- Whether a character is in one of the runs. -/
def contains (t : CodeTable) (c : Char) : Bool := (t.find? c).isSome

/-- The value that is kept about a character; zero for characters in none of the runs. -/
def value (t : CodeTable) (c : Char) : Nat := ((t.find? c).bind (·.values.head?)).getD 0

end CodeTable

end FundLedger
