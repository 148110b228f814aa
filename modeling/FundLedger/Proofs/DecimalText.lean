import FundLedger.Decimal.Text
import FundLedger.Proofs.Characters
/-!
# Written decimals

A decimal is read back from its text with its scale, and with its sign unless it is zero.

* `Decimal.scan_digits`: a run of digits that has room is read to its end.
* `Decimal.plainZero`: a decimal without the sign of a zero.
* `Decimal.ofText?_text`: a decimal is read back.
-/

namespace FundLedger

namespace Decimal

/-- The decimal, without a sign if it is zero. -/
def plainZero (a : Decimal) : Decimal := { a with negative := a.negative && a.mantissa != 0 }

theorem plainZero_equiv (a : Decimal) : a.plainZero ≈ a := by
  rw [equiv_iff]
  unfold units signed plainZero
  rcases eq_or_ne a.mantissa 0 with hzero | hne
  · simp [hzero]
  · simp [hne]

theorem plainZero_eq {a : Decimal} (h : a.negative = false ∨ a.mantissa ≠ 0) : a.plainZero = a := by
  obtain ⟨negative, mantissa, scale, hmantissa, hscale⟩ := a
  rcases h with rfl | h
  · rfl
  · simp [plainZero, h]

/-! ## Digits that have room -/

/-- Digits that leave room for their number and its places are read to their end. -/
theorem scan_digits {point digit : Bool} {m m' s : Nat} {ds rest : List Char}
    (hread : readDigits 10 digitValue? m ds = some m') (hm : m' < mantissaLimit)
    (hs : point = true → s + ds.length ≤ 28) :
    scan m s point digit (ds ++ rest) =
      scan m' (if point then s + ds.length else s) point (digit || !ds.isEmpty) rest := by
  induction ds generalizing m s digit with
  | nil =>
    obtain rfl : m = m' := Option.some.inj hread
    simp
  | cons c ds ih =>
    rw [readDigits_cons] at hread
    obtain ⟨d, hd, hread⟩ := Option.bind_eq_some_iff.mp hread
    have hdigit := isDigit_iff.mp (isDigit_of_isSome (by rw [hd]; rfl))
    have hunderscore : c ≠ '_' := by
      rintro rfl
      exact absurd hdigit (by decide)
    have hpoint : c ≠ '.' := by
      rintro rfl
      exact absurd hdigit (by decide)
    have hroom : ¬(point && s == 28 || decide (mantissaLimit ≤ m * 10 + d)) = true := by
      have hle := le_of_readDigits (by decide) hread
      rw [List.length_cons] at hs
      simp only [Bool.or_eq_true, Bool.and_eq_true, beq_iff_eq, decide_eq_true_eq]
      rintro (⟨hpoint, rfl⟩ | hlimit)
      · have := hs hpoint
        omega
      · omega
    rw [List.cons_append, scan, if_neg hunderscore, if_neg hpoint, hd]
    dsimp only
    rw [if_neg hroom, ih hread]
    · cases point with
      | false => simp
      | true => simp [Nat.add_assoc, Nat.add_comm 1]
    · intro h
      have := hs h
      rw [List.length_cons] at this
      rw [if_pos h]
      omega

/-! ## Decimals -/

/-- The digits in front of the point, and behind it. -/
theorem digits_split (a : Decimal) : ∃ whole fraction : List Char,
    a.text = String.ofList ((if a.negative then ['-'] else []) ++ whole ++
      (if a.scale = 0 then [] else '.' :: fraction)) ∧
    whole ++ fraction = a.digits ∧ whole ≠ [] ∧ fraction.length = a.scale := by
  have hlength : a.scale + 1 ≤ a.digits.length := le_length_padded (a.scale + 1) a.mantissa
  refine ⟨a.digits.take (a.digits.length - a.scale), a.digits.drop (a.digits.length - a.scale), rfl,
    List.take_append_drop _ _, ?_, ?_⟩
  · rw [← List.length_pos_iff, List.length_take]
    omega
  · rw [List.length_drop]
    omega

/-- The digits and the point of a decimal are read as its parts. -/
theorem scan_text (a : Decimal) {whole fraction : List Char} (hdigits : whole ++ fraction = a.digits) (hne : whole ≠ [])
    (hlength : fraction.length = a.scale) :
    scan 0 0 false false (whole ++ (if a.scale = 0 then [] else '.' :: fraction)) = some (a.mantissa, a.scale) := by
  have hread : readDigits 10 digitValue? 0 (whole ++ fraction) = some a.mantissa := by
    rw [hdigits]
    exact readDigits_padded (a.scale + 1) a.mantissa
  rw [readDigits_append] at hread
  obtain ⟨m, hwhole, hfraction⟩ := Option.bind_eq_some_iff.mp hread
  have hm : m < mantissaLimit := Nat.lt_of_le_of_lt (le_of_readDigits (by decide) hfraction) a.mantissa_lt
  have hisEmpty : whole.isEmpty = false := by simpa using hne
  rw [scan_digits hwhole hm (by intro h; cases h), hisEmpty]
  by_cases hscale : a.scale = 0
  · rw [if_pos hscale]
    rw [hscale, List.length_eq_zero_iff] at hlength
    subst hlength
    obtain rfl : m = a.mantissa := Option.some.inj hfraction
    simp [scan, hscale]
  · have hroom : 0 + fraction.length ≤ 28 := by
      have := a.scale_le
      omega
    have hend : scan m 0 true true (fraction ++ []) = scan a.mantissa (0 + fraction.length) true true [] :=
      scan_digits hfraction a.mantissa_lt fun _ => hroom
    rw [List.append_nil] at hend
    rw [if_neg hscale, scan, if_neg (by decide), if_pos rfl]
    simp [hend, hlength, scan]

theorem ofPlain?_minus (cs : List Char) :
    ofPlain? ('-' :: cs) = (scan 0 0 false false cs).bind fun (m, s) => ofParts? (m != 0) m s := by
  unfold ofPlain?
  simp only [Bool.true_and]
  rfl

theorem ofPlain?_of_digit {c : Char} (h : c.isDigit = true) (cs : List Char) :
    ofPlain? (c :: cs) = (scan 0 0 false false (c :: cs)).bind fun (m, s) => ofParts? false m s := by
  unfold ofPlain?
  split
  rename_i negative body hparts
  split at hparts
  · rename_i hminus
    cases hminus
    exact absurd h (by decide)
  · rename_i hplus
    cases hplus
    exact absurd h (by decide)
  · obtain ⟨rfl, rfl⟩ := Prod.mk.inj hparts
    simp only [Bool.false_and]
    rfl

theorem ofParts?_plainZero (a : Decimal) : ofParts? a.plainZero.negative a.mantissa a.scale = some a.plainZero := by
  unfold ofParts?
  rw [dif_pos ⟨a.mantissa_lt, a.scale_le⟩]
  rfl

/-- A decimal is read back from its text, but for the sign of a zero. -/
theorem ofText?_text (a : Decimal) : ofText? a.text = some a.plainZero := by
  obtain ⟨whole, fraction, htext, hdigits, hne, hlength⟩ := a.digits_split
  have hscan := scan_text a hdigits hne hlength
  have hplain : ofPlain? a.text.toList = some a.plainZero := by
    rw [htext, String.toList_ofList, ← a.ofParts?_plainZero]
    cases hneg : a.negative with
    | true =>
      rw [if_pos rfl, List.append_assoc, List.singleton_append, ofPlain?_minus, hscan]
      simp [plainZero, hneg]
    | false =>
      -- the first character is a digit, and no sign
      obtain ⟨c, rest, rfl⟩ := List.exists_cons_of_ne_nil hne
      have hc : c.isDigit = true := isDigit_of_mem_padded (hdigits ▸ List.mem_cons_self : c ∈ a.digits)
      rw [if_neg (by decide), List.nil_append, List.cons_append, ofPlain?_of_digit hc, ← List.cons_append, hscan]
      simp [plainZero, hneg]
  unfold ofText?
  rw [hplain]
  rfl

end Decimal

end FundLedger
