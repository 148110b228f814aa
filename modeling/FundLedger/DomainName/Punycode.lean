/-!
# Punycode

A label with other than ASCII characters is written with its ASCII characters in front, a hyphen behind them, and then
a run of numbers: for each other character, in ascending order, how many steps lie between its place and value and
those of the one before.  A number is written with digits of base 36, the lowest first; a digit below a threshold ends
it, and the thresholds follow the size of the numbers so far.

* `Punycode.encode`, `Punycode.decode?`.
-/

namespace FundLedger

namespace Punycode

/-- The character of a digit: `a` to `z`, then `0` to `9`. -/
def digitChar (d : Nat) : Char := Char.ofNat (if d < 26 then 'a'.toNat + d else '0'.toNat + d - 26)

/-- The digit that a character stands for. -/
def digit? (c : Char) : Option Nat :=
  if 'a' ≤ c ∧ c ≤ 'z' then some (c.toNat - 'a'.toNat)
  else if 'A' ≤ c ∧ c ≤ 'Z' then some (c.toNat - 'A'.toNat)
  else if c.isDigit then some (c.toNat - '0'.toNat + 26)
  else none

/-- The threshold of the digit at a position, which counts in steps of 36. -/
def threshold (bias position : Nat) : Nat := max 1 (min 26 (position - bias))

/-- Divides by 35 until the number is small, and counts how often, in steps of 36. -/
def shrink (delta steps : Nat) : Nat × Nat :=
  if 455 < delta then shrink (delta / 35) (steps + 36) else (delta, steps)
termination_by delta
decreasing_by exact Nat.div_lt_self (by omega) (by decide)

/-- The bias behind a number, the first one or a later one, that leads to `count` characters. -/
def adapt (delta count : Nat) (isFirst : Bool) : Nat :=
  let halved := if isFirst then delta / 700 else delta / 2
  let (small, steps) := shrink (halved + halved / count) 0
  steps + 36 * small / (small + 38)

/-! ## Reading -/

/-- Reads a number onto `sum`, from the digit at a position with its weight, and returns what follows. -/
def number? (bias position weight sum : Nat) : List Char → Option (Nat × List Char)
  | [] => none
  | c :: rest => do
    let d ← digit? c
    let t := threshold bias position
    if UInt32.size ≤ weight ∨ UInt32.size ≤ sum + d * weight then none
    else if d < t then some (sum + d * weight, rest)
    else number? bias (position + 36) (weight * (36 - t)) (sum + d * weight) rest

/-- The character with a code point, if there is one. -/
def charOf? (n : Nat) : Option Char := if h : n.isValidChar then some (Char.ofNatAux n h) else none

theorem number?_shorter {bias position weight sum n : Nat} {cs rest : List Char}
    (h : number? bias position weight sum cs = some (n, rest)) : rest.length < cs.length := by
  induction cs generalizing position weight sum with
  | nil => cases h
  | cons c cs ih =>
    unfold number? at h
    cases hd : digit? c with
    | none =>
      rw [hd] at h
      cases h
    | some d =>
      rw [hd] at h
      simp only [Option.bind_eq_bind, Option.bind_some] at h
      split at h
      · cases h
      · split at h
        · cases h
          exact Nat.lt_succ_self _
        · exact Nat.lt_succ_of_lt (ih h)

/-- Puts the characters that the numbers tell into a label.  `code` and `place` are those at which the search for the
next one starts. -/
def insertAll? (code place bias : Nat) (label digits : List Char) : Option (List Char) :=
  if digits.isEmpty then some label
  else
    match _h : number? bias 36 1 place digits with
    | none => none
    | some (sum, rest) =>
      let count := label.length + 1
      match charOf? (code + sum / count) with
      | none => none
      | some c =>
        let at' := sum % count
        insertAll? (code + sum / count) (at' + 1) (adapt (sum - place) count (place == 0))
          (label.take at' ++ c :: label.drop at') rest
termination_by digits.length
decreasing_by exact number?_shorter _h

/-- What stands in front of the last hyphen, if anything does, and behind it. -/
def splitLast (cs : List Char) : List Char × List Char :=
  let digits := (cs.reverse.takeWhile (· != '-')).reverse
  if digits.length < cs.length - 1 then (cs.take (cs.length - digits.length - 1), digits) else ([], cs)

/-- The label that a text stands for.  The ASCII characters are read in lower case. -/
def decode? (cs : List Char) : Option (List Char) :=
  let (ascii, digits) := splitLast cs
  if ascii.all (·.toNat < 128) then insertAll? 128 0 72 (ascii.map Char.toLower) digits else none

/-! ## Writing -/

/-- The digits of a number, from the one at a position. -/
def digits (bias position n : Nat) : List Char :=
  let t := threshold bias position
  if n < t then [digitChar n]
  else digitChar (t + (n - t) % (36 - t)) :: digits bias (position + 36) ((n - t) / (36 - t))
termination_by n
decreasing_by
  have ht : 1 ≤ threshold bias position := by unfold threshold; omega
  have := Nat.div_le_self (n - threshold bias position) (36 - threshold bias position)
  omega

/-- The state of the writer: the digits so far, the steps since the last character that was written, the bias, and how
many characters were written. -/
structure Writer where
  written : List Char
  steps : Nat
  bias : Nat
  count : Nat

/-- Passes a character while those with a code point are written; `basic` characters are ASCII. -/
def Writer.pass (basic code : Nat) (w : Writer) (c : Char) : Writer :=
  if c.toNat < code then { w with steps := w.steps + 1 }
  else if c.toNat = code then
    { written := w.written ++ digits w.bias 36 w.steps
      steps := 0
      bias := adapt w.steps (w.count + 1) (w.count == basic)
      count := w.count + 1 }
  else w

/-- Writes the characters of a label with some code points, in ascending order, the first not below `from'`. -/
def Writer.passAll (label : List Char) (basic from' : Nat) (w : Writer) : List Nat → Writer
  | [] => w
  | code :: rest =>
    let w := label.foldl (Writer.pass basic code) { w with steps := w.steps + (code - from') * (w.count + 1) }
    Writer.passAll label basic (code + 1) { w with steps := w.steps + 1 } rest

/-- The text of a label. -/
def encode (label : List Char) : List Char :=
  let ascii := label.filter (·.toNat < 128)
  let codes := (((label.map Char.toNat).filter (128 ≤ ·)).mergeSort).eraseDups
  let start : Writer := { written := [], steps := 0, bias := 72, count := ascii.length }
  ascii ++ (if ascii.isEmpty then [] else ['-']) ++ (start.passAll label ascii.length 128 codes).written

end Punycode

end FundLedger
