import FundLedger.Ident
import FundLedger.Proofs.Characters
/-!
# Written identifiers

An identifier is read back from its written form.  So different identifiers have different written forms.

* `Uuid.ofText?_text`, `RecordId.ofText?_text`: identifiers are read back.
* `RecordId.text_injective`.
* `Uuid.mem_text`: the characters of a written form.
-/

namespace FundLedger

namespace Uuid

theorem length_digits (a : Uuid) : a.digits.length = 32 := by
  have hlength : (Nat.toDigits 16 a.value).length ≤ 32 :=
    (Nat.length_toDigits_le_iff (by decide) (by decide)).mpr a.value_lt
  simp [digits, zeroPadded]
  omega

/-- The digits between the hyphens. -/
def unhyphenated (cs : List Char) : List Char :=
  cs.take 8 ++ (cs.drop 9).take 4 ++ (cs.drop 14).take 4 ++ (cs.drop 19).take 4 ++ cs.drop 24

theorem exists_append_of_le_length (n : Nat) (ds : List Char) (h : n ≤ ds.length) :
    ∃ cs rest, ds = cs ++ rest ∧ cs.length = n :=
  ⟨ds.take n, ds.drop n, (List.take_append_drop n ds).symm, List.length_take_of_le h⟩

theorem unhyphenated_hyphenated {ds : List Char} (h : ds.length = 32) : unhyphenated (hyphenated ds) = ds := by
  obtain ⟨a, ds, rfl, ha⟩ := exists_append_of_le_length 8 ds (by omega)
  obtain ⟨b, ds, rfl, hb⟩ := exists_append_of_le_length 4 ds (by simp at h; omega)
  obtain ⟨c, ds, rfl, hc⟩ := exists_append_of_le_length 4 ds (by simp at h; omega)
  obtain ⟨d, e, rfl, hd⟩ := exists_append_of_le_length 4 ds (by simp at h; omega)
  simp [hyphenated, unhyphenated, List.drop_append, List.drop_eq_nil_of_le, ha, hb, hc, hd]

theorem ofDigits?_digits (a : Uuid) : ofDigits? a.digits = some a := by
  unfold ofDigits?
  rw [show natOfHex? a.digits = some a.value from natOfHex?_zeroPadded 32 a.value]
  simp [length_digits, a.value_lt]

theorem length_hyphenated {ds : List Char} (h : ds.length = 32) : (hyphenated ds).length = 36 := by
  simp [hyphenated, h]

/-- An identifier is written in digits and hyphens. -/
theorem mem_text {a : Uuid} {c : Char} (h : c ∈ a.text.toList) : c = '-' ∨ (hexValue? c).isSome = true := by
  have hdigits : ∀ d ∈ a.digits, (hexValue? d).isSome = true :=
    isSome_of_readDigits (readDigits_zeroPadded readsDigits_hex 32 a.value)
  unfold text hyphenated at h
  rw [String.toList_ofList] at h
  simp only [List.mem_append, List.mem_cons, List.append_assoc, List.cons_append] at h
  rcases h with h | rfl | h | rfl | h | rfl | h | rfl | h
  · exact .inr (hdigits c (List.mem_of_mem_take h))
  · exact .inl rfl
  · exact .inr (hdigits c (List.mem_of_mem_drop (List.mem_of_mem_take h)))
  · exact .inl rfl
  · exact .inr (hdigits c (List.mem_of_mem_drop (List.mem_of_mem_take h)))
  · exact .inl rfl
  · exact .inr (hdigits c (List.mem_of_mem_drop (List.mem_of_mem_take h)))
  · exact .inl rfl
  · exact .inr (hdigits c (List.mem_of_mem_drop h))

/-- An identifier is read back from its written form. -/
theorem ofText?_text (a : Uuid) : ofText? a.text = some a := by
  have hlength := length_hyphenated a.length_digits
  have hback := unhyphenated_hyphenated a.length_digits
  have hread : ofHyphenated? (hyphenated a.digits) = some a := by
    change (if hyphenated (unhyphenated (hyphenated a.digits)) = hyphenated a.digits then
      ofDigits? (unhyphenated (hyphenated a.digits)) else none) = some a
    rw [hback, if_pos rfl, ofDigits?_digits]
  unfold ofText? text
  simp [String.toList_ofList, hlength, hread]

end Uuid

namespace RecordId

variable {kind : IdKind}

theorem ofText?_text (a : RecordId kind) : ofText? a.text = some a := by
  unfold ofText? text
  rw [Uuid.ofText?_text]
  rfl

/-- Different identifiers have different written forms. -/
theorem text_injective {a b : RecordId kind} (h : a.text = b.text) : a = b := by
  have hread : some a = some b := by
    rw [← ofText?_text a, h, ofText?_text]
  exact Option.some.inj hread

end RecordId

end FundLedger
