import Mathlib.Data.List.TakeWhile
import FundLedger.Proofs.Calendar
import FundLedger.Proofs.Characters
/-!
# Written instants

An instant of the years 0 to 9999 is read back from its text, to the nanosecond.

* `Instant.number?_padded`, `Instant.year?_padded`, `Instant.fraction?_fractionText`: the parts of a text.
* `Instant.IsWritable`: the instants of the years with four digits, whose leap seconds end a minute.
* `Instant.ofText?_text`: they are read back.
-/

namespace FundLedger

namespace Instant

/-- The year of an instant. -/
def year (a : Instant) : Int := (civilFromDays (a.seconds.fdiv 86400)).1

/-- An instant of the years that have four digits.  It may have any nanosecond; a leap second ends a minute. -/
structure IsWritable (a : Instant) : Prop where
  year : 0 ≤ a.year ∧ a.year ≤ 9999
  nanos : a.nanos < 1000000000 ∨ (a.nanos < 2000000000 ∧ a.seconds % 60 = 59)

/-! ## The parts of a text -/

/-- A number with at least one digit starts with one. -/
theorem exists_digit_padded {width n : Nat} (hwidth : 0 < width) :
    ∃ c ds, padded width n = c :: ds ∧ c.isDigit = true := by
  have hlength : 0 < (padded width n).length := Nat.lt_of_lt_of_le hwidth (le_length_padded width n)
  obtain ⟨c, ds, hds⟩ := List.exists_cons_of_length_pos hlength
  exact ⟨c, ds, hds, isDigit_of_mem_padded (hds ▸ List.mem_cons_self : c ∈ padded width n)⟩

theorem trimStart_padded {width n : Nat} (hwidth : 0 < width) (rest : List Char) :
    trimStart (padded width n ++ rest) = padded width n ++ rest := by
  obtain ⟨c, ds, hds, hc⟩ := exists_digit_padded (n := n) hwidth
  rw [hds, List.cons_append, trimStart_of_head (isBlank_of_isDigit hc)]

theorem number?_padded {width n : Nat} (hwidth : 0 < width) (h : n < 10 ^ width) (rest : List Char) :
    number? width (padded width n ++ rest) = some (n, rest) := by
  have hlength := length_padded hwidth h
  have htake : (padded width n ++ rest).take width = padded width n := by
    rw [List.take_append_of_le_length hlength.ge, List.take_of_length_le hlength.le]
  have hdigits : (padded width n).takeWhile Char.isDigit = padded width n :=
    List.takeWhile_eq_self_iff.mpr fun _ hc => isDigit_of_mem_padded hc
  unfold number?
  simp only [trimStart_padded hwidth, htake, hdigits, natOfDigits?_padded]
  rw [List.drop_left]
  rfl

theorem year?_padded {n : Nat} (h : n < 10 ^ 4) (rest : List Char) :
    year? (padded 4 n ++ rest) = some ((n : Int), rest) := by
  have hnumber := number?_padded (by decide) h rest
  obtain ⟨c, ds, hds, hc⟩ := exists_digit_padded (n := n) (by decide : 0 < 4)
  unfold year?
  rw [trimStart_padded (by decide)]
  split
  · rename_i hminus
    rw [hds] at hminus
    cases hminus
    exact absurd hc (by decide)
  · rename_i hplus
    rw [hds] at hplus
    cases hplus
    exact absurd hc (by decide)
  · rw [hnumber]
    rfl

theorem expect_cons {c : Char} (h : isBlank c = false) (rest : List Char) : expect c (c :: rest) = some rest := by
  unfold expect
  rw [trimStart_of_head h]
  exact if_pos rfl

/-- Some digits of a fraction, and what they are multiplied by. -/
theorem fraction?_padded {width n : Nat} (hwidth : 0 < width) (hwidth' : width ≤ 9) (h : n < 10 ^ width) :
    fraction? ('.' :: padded width n ++ ['Z']) = some (n * 10 ^ (9 - width), ['Z']) := by
  have hlength := length_padded hwidth h
  have htake : (padded width n).take 9 = padded width n := List.take_of_length_le (hlength.le.trans hwidth')
  have hdigits : (padded width n ++ ['Z']).takeWhile Char.isDigit = padded width n := by
    rw [List.takeWhile_append_of_pos fun _ hc => isDigit_of_mem_padded hc]
    exact List.append_nil _
  have hrest : (padded width n ++ ['Z']).dropWhile Char.isDigit = ['Z'] := by
    rw [List.dropWhile_append_of_pos fun _ hc => isDigit_of_mem_padded hc]
    rfl
  rw [List.cons_append]
  unfold fraction?
  simp only [hdigits, hrest, htake, natOfDigits?_padded, hlength]
  rfl

theorem fraction?_fractionText {nanos : Nat} (h : nanos < 1000000000) :
    fraction? (fractionText nanos ++ ['Z']) = some (nanos, ['Z']) := by
  unfold fractionText
  split
  · rename_i hzero
    rw [hzero]
    rfl
  split
  · rw [fraction?_padded (by decide) (by decide) (by omega)]
    simp only [Option.some.injEq, Prod.mk.injEq, and_true]
    omega
  split
  · rw [fraction?_padded (by decide) (by decide) (by omega)]
    simp only [Option.some.injEq, Prod.mk.injEq, and_true]
    omega
  · rw [fraction?_padded (by decide) (by decide) h]
    simp

/-! ## The whole text -/

/-- The parts of a written form are read one after the other. -/
theorem ofText?_parts {year month day hour minute second nanos : Nat} (hyear : year < 10 ^ 4) (hmonth : month < 10 ^ 2)
    (hday : day < 10 ^ 2) (hhour : hour < 10 ^ 2) (hminute : minute < 10 ^ 2) (hsecond : second < 10 ^ 2)
    (hnanos : nanos < 1000000000) :
    ofText? (String.ofList (padded 4 year ++ '-' :: padded 2 month ++ '-' :: padded 2 day ++ 'T' ::
      padded 2 hour ++ ':' :: padded 2 minute ++ ':' :: padded 2 second ++ fractionText nanos ++ ['Z'])) =
    ofCivil? year month day hour minute second nanos 0 := by
  have hhyphen : isBlank '-' = false := by decide
  have hcolon : isBlank ':' = false := by decide
  have htwo : 0 < 2 := by decide
  rw [ofText?, String.toList_ofList]
  simp only [List.append_assoc, List.cons_append]
  have hT : 'T' = 't' ∨ 'T' = 'T' ∨ 'T' = ' ' := .inr (.inl rfl)
  have hZ : trimStart ['Z'] = ['Z'] := trimStart_of_head (by decide) []
  rw [year?_padded hyear]
  dsimp only [Option.bind_eq_bind, Option.bind_some]
  rw [expect_cons hhyphen, Option.bind_some, number?_padded htwo hmonth, Option.bind_some]
  dsimp only
  rw [expect_cons hhyphen, Option.bind_some, number?_padded htwo hday, Option.bind_some]
  dsimp only
  rw [if_pos hT, number?_padded htwo hhour, Option.bind_some]
  dsimp only
  rw [expect_cons hcolon, Option.bind_some, number?_padded htwo hminute, Option.bind_some]
  dsimp only
  rw [expect_cons hcolon, Option.bind_some, number?_padded htwo hsecond, Option.bind_some]
  dsimp only
  rw [fraction?_fractionText hnanos, Option.bind_some, hZ]
  rfl

/-- A date of the calendar and a time of day are read as their instant. -/
theorem ofCivil?_eq {year : Int} {month day hour minute second nanos : Nat} {a : Instant}
    (hyear : 0 ≤ year ∧ year ≤ 9999) (hmonth : 1 ≤ month ∧ month ≤ 12)
    (hday : 1 ≤ day ∧ day ≤ daysInMonth year month) (hhour : hour < 24) (hminute : minute < 60) (hsecond : second ≤ 60)
    (hseconds : a.seconds = daysFromCivil year month day * 86400 +
      (hour * 3600 + minute * 60 + if second = 60 then 59 else second))
    (hnanos : a.nanos = if second = 60 then nanos + 1000000000 else nanos) (hback : a.year = year) :
    ofCivil? year month day hour minute second nanos 0 = some a := by
  have hrange : yearInRange year = true := by
    rw [yearInRange, decide_eq_true_eq]
    omega
  unfold ofCivil?
  rw [if_pos ⟨hrange, hmonth.1, hmonth.2, hday.1, hday.2, hhour, hminute, hsecond⟩]
  simp only [Int.sub_zero, ← hseconds, ← hnanos]
  have hrange' : yearInRange a.year = true := by rwa [hback]
  exact if_pos hrange'

/-- An instant of the years with four digits is read back from its text. -/
theorem ofText?_text {a : Instant} (h : a.IsWritable) : ofText? a.text = some a := by
  obtain ⟨days, hdays⟩ : ∃ days, a.seconds.fdiv 86400 = days := ⟨_, rfl⟩
  obtain ⟨inDay, hinDay⟩ : ∃ inDay, (a.seconds - days * 86400).toNat = inDay := ⟨_, rfl⟩
  obtain ⟨year, month, day, hdate, hback, hmonth, hmonth', hday, hday'⟩ := civilFromDays_spec days
  have hyear : a.year = year := by
    unfold Instant.year
    rw [hdays, hdate]
  have htext : a.text = String.ofList (padded 4 year.toNat ++ '-' :: padded 2 month ++ '-' :: padded 2 day ++ 'T' ::
      padded 2 (inDay / 3600) ++ ':' :: padded 2 (inDay / 60 % 60) ++ ':' ::
      padded 2 (inDay % 60 + if 1000000000 ≤ a.nanos then 1 else 0) ++
      fractionText (if 1000000000 ≤ a.nanos then a.nanos - 1000000000 else a.nanos) ++ ['Z']) := by
    have hyearText : yearText year = padded 4 year.toNat := if_pos (hyear ▸ h.year)
    unfold text
    simp only [hdays, hinDay, hdate, hyearText]
  have hdays' := hdays
  rw [Int.fdiv_eq_ediv_of_nonneg _ (by decide)] at hdays'
  have hseconds : a.seconds = days * 86400 + inDay ∧ inDay < 86400 := by omega
  have hyear' : (year.toNat : Int) = year := by
    have := h.year
    omega
  have hlength : daysInMonth year month ≤ 31 := by
    unfold daysInMonth
    split_ifs <;> omega
  have hrange := h.year
  obtain ⟨-, hnanos⟩ := h
  rw [htext, ofText?_parts (by omega) (by omega) (by omega) (by omega) (by omega) (by split <;> omega) (by split <;> omega),
    hyear']
  refine ofCivil?_eq (hyear ▸ hrange) ⟨hmonth, hmonth'⟩ ⟨hday, hday'⟩ (by omega) (by omega) (by split <;> omega) ?_ ?_ hyear
  · rw [hback]
    split_ifs <;> omega
  · split_ifs <;> omega

end Instant

end FundLedger
