import Mathlib.Algebra.Ring.Nat
import Mathlib.Data.List.TakeWhile
import FundLedger.Json.Printer
import FundLedger.Json.Reader
import FundLedger.Proofs.Characters
/-!
# Written JSON

A JSON value is read back from its compact text, with the members of its objects in the order of their names.

* `Json.stringRest_quoted`, `Json.number?_toString`: strings and whole numbers.
* `Json.Reordered`: the same value but for the order of members.
* `Json.IsWritable`: the values that are read back, without doubles.
* `Json.itemsRest?_text`, `Json.membersRest?_text`: the insides of arrays and objects.
* `Json.parse?_compact`: a value is read back, but for the order of members.
-/

namespace FundLedger

namespace Json

/-! ## Strings -/

theorem natOfHex?_of_control : ∀ n < 32, natOfHex? ['0', '0', hexDigit (n / 16), hexDigit (n % 16)] = some n := by
  decide

/-- A one-letter escape is read as its character. -/
theorem stringRest_escaped {c d : Char} (h : escaped? c = some d) (done cs : List Char) :
    stringRest done ('\\' :: c :: cs) = stringRest (d :: done) cs := by
  have hu : c ≠ 'u' := by
    rintro rfl
    cases h
  rw [stringRest, h]
  · rfl
  · exact fun _ _ _ _ _ _ _ _ _ hc => absurd hc hu
  · exact fun _ _ _ _ _ hc => absurd hc hu

/-- An escape of four digits is read as its character, unless it is half of a pair. -/
theorem stringRest_digits {a b c d : Char} {n : Nat} (h : natOfHex? [a, b, c, d] = some n) (hn : n < 0xD800)
    (done cs : List Char) : stringRest done ('\\' :: 'u' :: a :: b :: c :: d :: cs) = stringRest (Char.ofNat n :: done) cs := by
  have hhigh : ¬(0xD800 ≤ n ∧ n < 0xDC00) := by omega
  have hlow : ¬(0xDC00 ≤ n ∧ n < 0xE000) := by omega
  have hpair : ¬(0xD800 ≤ n ∧ n < 0xE000) := by omega
  by_cases hnext : ∃ e f g h rest, cs = '\\' :: 'u' :: e :: f :: g :: h :: rest
  · obtain ⟨e, f, g, h', rest, rfl⟩ := hnext
    rw [stringRest, h]
    simp only [bind, Option.bind, if_neg hhigh, if_neg hlow]
  · rw [stringRest, h]
    · simp only [bind, Option.bind, if_neg hpair]
    · exact fun e f g h rest hcs => hnext ⟨e, f, g, h, rest, hcs⟩

/-- A character that stands for itself. -/
theorem stringRest_cons {c : Char} (hquote : c ≠ '"') (hbackslash : c ≠ '\\') (hcontrol : ¬c.toNat < 32)
    (done cs : List Char) : stringRest done (c :: cs) = stringRest (c :: done) cs := by
  rw [stringRest, if_neg]
  · rintro (h | h)
    · exact hcontrol h
    · exact hbackslash h
  · exact hquote
  · exact fun _ _ _ _ _ _ _ _ _ h => absurd h hbackslash
  · exact fun _ _ _ _ _ h => absurd h hbackslash
  · exact fun _ _ h => absurd h hbackslash

/-- Every character is read back from its escape. -/
theorem stringRest_escape (done : List Char) (c : Char) (cs : List Char) :
    stringRest done (escape c ++ cs) = stringRest (c :: done) cs := by
  unfold escape
  split_ifs with hquote hbackslash hbackspace hfeed hline hreturn htab hcontrol
  · subst hquote
    exact stringRest_escaped rfl done cs
  · subst hbackslash
    exact stringRest_escaped rfl done cs
  · subst hbackspace
    exact stringRest_escaped rfl done cs
  · subst hfeed
    exact stringRest_escaped rfl done cs
  · subst hline
    exact stringRest_escaped rfl done cs
  · subst hreturn
    exact stringRest_escaped rfl done cs
  · subst htab
    exact stringRest_escaped rfl done cs
  · have hdigits := stringRest_digits (natOfHex?_of_control c.toNat hcontrol) (by omega) done cs
    rwa [Char.ofNat_toNat] at hdigits
  · exact stringRest_cons hquote hbackslash hcontrol done cs

/-- A string is read back from its escaped characters. -/
theorem stringRest_flatMap_escape (done s rest : List Char) :
    stringRest done (s.flatMap escape ++ '"' :: rest) = some (String.ofList (done.reverse ++ s), rest) := by
  induction s generalizing done with
  | nil =>
    rw [List.flatMap_nil, List.nil_append, List.append_nil]
    rfl
  | cons c s ih =>
    rw [List.flatMap_cons, List.append_assoc, stringRest_escape, ih, List.reverse_cons, List.append_assoc]
    rfl

theorem stringRest_quoted (s : String) (rest : List Char) :
    ∃ cs, (quoted s).toList ++ rest = '"' :: cs ∧ stringRest [] cs = some (s, rest) := by
  refine ⟨s.toList.flatMap escape ++ '"' :: rest, ?_, ?_⟩
  · unfold quoted
    rw [String.toList_ofList]
    simp only [List.cons_append, List.append_assoc, List.nil_append]
  · rw [stringRest_flatMap_escape, List.reverse_nil, List.nil_append, String.ofList_toList]

/-! ## Whole numbers -/

/-- What may follow a value inside of an array or object: nothing, a comma, or a closing bracket. -/
def Closes (rest : List Char) : Prop := ∀ c ∈ rest.head?, c = ',' ∨ c = ']' ∨ c = '\x7d'

theorem takeWhile_isDigit_append {ds rest : List Char} (hds : ∀ c ∈ ds, c.isDigit = true) (hrest : Closes rest) :
    (ds ++ rest).takeWhile Char.isDigit = ds ∧ (ds ++ rest).dropWhile Char.isDigit = rest := by
  rw [List.takeWhile_append_of_pos hds, List.dropWhile_append_of_pos hds]
  cases rest with
  | nil => exact ⟨List.append_nil ds, rfl⟩
  | cons c rest =>
    have hc : ¬c.isDigit = true := by
      rcases hrest c rfl with rfl | rfl | rfl <;> decide
    rw [List.takeWhile_cons_of_neg hc, List.dropWhile_cons_of_neg hc, List.append_nil]
    exact ⟨rfl, rfl⟩

theorem digitRun?_append {ds rest : List Char} (hds : ∀ c ∈ ds, c.isDigit = true) (hne : ds ≠ []) (hrest : Closes rest) :
    digitRun? (ds ++ rest) = some (ds, rest) := by
  obtain ⟨htake, hdrop⟩ := takeWhile_isDigit_append hds hrest
  have hisEmpty : ¬ds.isEmpty = true := by simpa using hne
  unfold digitRun?
  rw [htake, hdrop]
  exact if_neg hisEmpty

theorem fractionPart?_of_closes {rest : List Char} (h : Closes rest) : fractionPart? rest = some ([], rest) := by
  unfold fractionPart?
  split
  · rcases h _ rfl with h | h | h <;> cases h
  · rfl

theorem exponentPart?_of_closes {rest : List Char} (h : Closes rest) : exponentPart? rest = some (false, [], rest) := by
  unfold exponentPart?
  split
  · have hc : ∀ {c : Char} {rest : List Char}, Closes (c :: rest) → ¬(c = 'e' ∨ c = 'E') := by
      intro c rest h
      rcases h c rfl with rfl | rfl | rfl <;> decide
    exact if_neg (hc h)
  · rfl

/-- Only zero is written with a zero in front. -/
theorem head?_toDigits {n : Nat} (h : 0 < n) : (Nat.toDigits 10 n).head? ≠ some '0' := by
  induction n using Nat.strongRecOn with
  | ind n ih =>
    rw [Nat.toDigits_eq_if (by decide)]
    split
    · rename_i hlt
      have hdigit : ∀ d < 10, 0 < d → d.digitChar ≠ '0' := by decide
      rw [List.head?_cons, Ne, Option.some.injEq]
      exact hdigit n hlt h
    · rename_i hle
      have hfront := ih (n / 10) (by omega) (by omega)
      obtain ⟨c, ds, hds⟩ := List.exists_cons_of_ne_nil (Nat.toDigits_ne_nil (b := 10) (n := n / 10))
      rw [hds] at hfront ⊢
      exact hfront

theorem padded_zero (n : Nat) : padded 0 n = Nat.toDigits 10 n := by
  rw [padded, zeroPadded, Nat.zero_sub, List.replicate_zero, List.nil_append]

theorem unsigned?_toDigits (negative : Bool) {n : Nat} {rest : List Char} (hrest : Closes rest)
    (h : if negative then 0 < n ∧ n ≤ 9223372036854775808 else n < UInt64.size) :
    unsigned? negative (Nat.toDigits 10 n ++ rest) = some (.int (if negative then -(n : Int) else n), rest) := by
  have hread : natOfDigits? (Nat.toDigits 10 n) = some n := padded_zero n ▸ natOfDigits?_padded 0 n
  have hdigits : ∀ c ∈ Nat.toDigits 10 n, c.isDigit = true := by
    rw [← padded_zero]
    exact fun c hc => isDigit_of_mem_padded hc
  have hne : Nat.toDigits 10 n ≠ [] := Nat.toDigits_ne_nil
  have hfront : ¬(1 < (Nat.toDigits 10 n).length ∧ (Nat.toDigits 10 n ++ rest).head? = some '0') := by
    rintro ⟨hlength, hzero⟩
    rcases Nat.eq_zero_or_pos n with rfl | hpos
    · exact absurd hlength (by decide)
    · obtain ⟨c, ds, hds⟩ := List.exists_cons_of_ne_nil hne
      have hhead := head?_toDigits hpos
      rw [hds] at hhead hzero
      exact hhead hzero
  unfold unsigned?
  simp only [digitRun?_append hdigits hne hrest, fractionPart?_of_closes hrest, exponentPart?_of_closes hrest, hread,
    bind, Option.bind, if_neg hfront]
  cases negative with
  | true =>
    have hn : 0 < n ∧ n ≤ 9223372036854775808 := by simpa using h
    simp [hn]
  | false =>
    have hn : n < UInt64.size := by simpa using h
    simp [hn]

theorem toList_toString (n : Int) :
    (toString n).toList = (if n < 0 then ['-'] else []) ++ Nat.toDigits 10 n.natAbs := by
  cases n with
  | ofNat n =>
    rw [if_neg (by simp)]
    change (String.ofList (Nat.toDigits 10 n)).toList = _
    rw [String.toList_ofList]
    rfl
  | negSucc n =>
    rw [if_pos (Int.negSucc_lt_zero n)]
    change ("-" ++ String.ofList (Nat.toDigits 10 (n + 1))).toList = _
    simp only [String.toList_append, String.toList_ofList]
    rfl

/-- A whole number of 64 bits is read back from its digits. -/
theorem number?_toString {n : Int} (hn : -9223372036854775808 ≤ n ∧ n < 18446744073709551616) {rest : List Char}
    (hrest : Closes rest) : number? ((toString n).toList ++ rest) = some (.int n, rest) := by
  rw [toList_toString]
  by_cases hneg : n < 0
  · have hread := unsigned?_toDigits true (n := n.natAbs) hrest (by rw [if_pos rfl]; omega)
    have hback : -(n.natAbs : Int) = n := by omega
    rw [if_pos rfl, hback] at hread
    rw [if_pos hneg]
    exact hread
  · have hread := unsigned?_toDigits false (n := n.natAbs) hrest (by rw [if_neg (by decide)]; change _ < 2 ^ 64; omega)
    have hback : (n.natAbs : Int) = n := by omega
    rw [if_neg (by decide), hback] at hread
    rw [if_neg hneg, List.nil_append]
    -- the first digit is no sign
    obtain ⟨c, ds, hds⟩ := List.exists_cons_of_ne_nil (Nat.toDigits_ne_nil (b := 10) (n := n.natAbs))
    have hc : c.isDigit = true := by
      rw [← padded_zero] at hds
      exact isDigit_of_mem_padded (hds ▸ List.mem_cons_self)
    rw [hds] at hread ⊢
    unfold number?
    split
    · rename_i hminus
      cases hminus
      exact absurd hc (by decide)
    · exact hread

/-! ## Members of objects -/

section Members

variable {members members' : List (String × Json)} {name : String} {v : Json}

theorem member?_eq_none_iff : member? name members = none ↔ ∀ m ∈ members, m.1 ≠ name := by
  unfold member?
  rw [Option.map_eq_none_iff, List.find?_eq_none]
  simp only [beq_iff_eq]

/-- Names occur once, so a member is the one of its name. -/
theorem member?_eq_some_iff (hnodup : (members.map (·.1)).Nodup) : member? name members = some v ↔ (name, v) ∈ members := by
  induction members with
  | nil => simp [member?]
  | cons m members ih =>
    obtain ⟨own, value⟩ := m
    obtain ⟨hnew, hrest⟩ := List.nodup_cons.mp hnodup
    unfold member? at ih ⊢
    by_cases hname : own = name
    · subst hname
      have hother : (own, v) ∉ members := fun hmem => hnew (List.mem_map.mpr ⟨_, hmem, rfl⟩)
      rw [List.find?_cons_of_pos (by simp)]
      simp [hother, eq_comm]
    · rw [List.find?_cons_of_neg (by simpa using hname), ih hrest]
      simp [Ne.symm hname]

/-- The order of the members does not matter. -/
theorem member?_perm (h : members.Perm members') (hnodup : (members.map (·.1)).Nodup) (name : String) :
    member? name members = member? name members' := by
  refine Option.ext fun v => ?_
  rw [member?_eq_some_iff hnodup, member?_eq_some_iff ((h.map _).nodup_iff.mp hnodup), h.mem_iff]

theorem putMember_of_new (h : ∀ m ∈ members, m.1 ≠ name) : putMember name v members = members ++ [(name, v)] := by
  induction members with
  | nil => rfl
  | cons m members ih =>
    obtain ⟨hm, hmembers⟩ := List.forall_mem_cons.mp h
    rw [putMember, if_neg (by simpa using hm), ih hmembers]
    rfl

/-- Members with different names are an object as they are. -/
theorem ofMembers_of_nodup (hnodup : (members.map (·.1)).Nodup) : ofMembers members = .object members := by
  have hfold : ∀ (rest front : List (String × Json)), ((front ++ rest).map (·.1)).Nodup →
      rest.foldl (fun acc m => putMember m.1 m.2 acc) front = front ++ rest := by
    intro rest
    induction rest with
    | nil => intro front _; exact (List.append_nil front).symm
    | cons m rest ih =>
      intro front h
      have hnew : ∀ m' ∈ front, m'.1 ≠ m.1 := by
        intro m' hm' heq
        rw [List.map_append, List.nodup_append] at h
        exact h.2.2 _ (List.mem_map_of_mem hm') _ (List.mem_map_of_mem List.mem_cons_self) heq
      rw [List.foldl_cons, putMember_of_new hnew, ih _ (by rwa [List.append_assoc, List.singleton_append]),
        List.append_assoc, List.singleton_append]
  unfold ofMembers
  rw [hfold members [] hnodup, List.nil_append]

end Members

/-! ## Values -/

/-- The same value, but for the order of the members of its objects. -/
inductive Reordered : Json → Json → Prop
  | refl (v : Json) : Reordered v v
  | array {items items' : List Json} (h : List.Forall₂ Reordered items items') : Reordered (.array items) (.array items')
  | object {members members' : List (String × Json)}
      (h : ∀ name, Option.Rel Reordered (member? name members) (member? name members')) :
      Reordered (.object members) (.object members')

/-- Values that are read back from their texts: whole numbers have 64 bits, the members of an object have different
names, and no more than so many arrays and objects are inside each other. -/
inductive IsWritable : Nat → Json → Prop
  | null {depth : Nat} : IsWritable depth .null
  | bool {depth : Nat} {b : Bool} : IsWritable depth (.bool b)
  | integer {depth : Nat} {n : Int} (h : -9223372036854775808 ≤ n ∧ n < 18446744073709551616) : IsWritable depth (.int n)
  | string {depth : Nat} {s : String} : IsWritable depth (.string s)
  | array {depth : Nat} {items : List Json} (h : ∀ v ∈ items, IsWritable depth v) : IsWritable (depth + 1) (.array items)
  | object {depth : Nat} {members : List (String × Json)} (hnodup : (members.map (·.1)).Nodup)
      (h : ∀ m ∈ members, IsWritable depth m.2) : IsWritable (depth + 1) (.object members)

theorem IsWritable.mono {depth depth' : Nat} {v : Json} (h : IsWritable depth v) (hle : depth ≤ depth') :
    IsWritable depth' v := by
  induction h generalizing depth' with
  | null => exact .null
  | bool => exact .bool
  | integer h => exact .integer h
  | string => exact .string
  | array _ ih =>
    obtain ⟨depth', rfl⟩ := Nat.exists_eq_add_of_le' (Nat.le_trans (Nat.le_add_left 1 _) hle)
    exact .array fun v hv => ih v hv (Nat.le_of_succ_le_succ hle)
  | object hnodup _ ih =>
    obtain ⟨depth', rfl⟩ := Nat.exists_eq_add_of_le' (Nat.le_trans (Nat.le_add_left 1 _) hle)
    exact .object hnodup fun m hm => ih m hm (Nat.le_of_succ_le_succ hle)

/-- A member as text. -/
def memberText (m : String × Json) : List Char := (quoted m.1).toList ++ ':' :: m.2.compact.toList

/-- Members in the order of their names. -/
def byName (members : List (String × Json)) : List (String × Json) :=
  members.mergeSort fun a b => decide (a.1 < b.1) || a.1 == b.1

theorem compactItems_eq (items : List Json) : compactItems items = items.map compact := by
  induction items with
  | nil => rfl
  | cons item rest ih => rw [compactItems, ih, List.map_cons]

theorem compactMembers_eq (members : List (String × Json)) :
    compactMembers members = members.map fun m => (m.1, m.2.compact) := by
  induction members with
  | nil => rfl
  | cons m rest ih =>
    obtain ⟨name, value⟩ := m
    rw [compactMembers, ih, List.map_cons]

theorem toList_compact_array (items : List Json) :
    (compact (.array items)).toList = '[' :: ([','].intercalate (items.map fun v => v.compact.toList) ++ [']']) := by
  rw [compact, compactItems_eq]
  simp only [String.toList_append, String.toList_intercalate, List.map_map]
  rfl

theorem toList_compact_object (members : List (String × Json)) :
    (compact (.object members)).toList = '\x7b' :: ([','].intercalate ((byName members).map memberText) ++ ['\x7d']) := by
  have hsort : (compactMembers members).mergeSort nameLE = (byName members).map fun m => (m.1, m.2.compact) := by
    rw [compactMembers_eq]
    refine (List.map_mergeSort ?_).symm
    intro a _ b _
    rfl
  have htext : ∀ m : String × Json, (quoted m.1 ++ ":" ++ m.2.compact).toList = memberText m := by
    intro m
    simp only [String.toList_append, List.append_assoc]
    rfl
  rw [compact, hsort]
  simp only [String.toList_append, String.toList_intercalate, List.map_map, Function.comp_def, htext]
  rfl

/-! ## Reading values -/

/-- The value is read from its text, with this room for what is inside of it. -/
def IsRead (depth : Nat) (v : Json) : Prop :=
  ∀ (fuel : Nat) (rest : List Char), v.compact.toList.length ≤ fuel → Closes rest →
    ∃ v', value? fuel depth (v.compact.toList ++ rest) = some (v', rest) ∧ v.Reordered v'

theorem skipBlank_cons {c : Char} (h : ¬(c = ' ' ∨ c = '\t' ∨ c = '\n' ∨ c = '\r')) (cs : List Char) :
    skipBlank (c :: cs) = c :: cs := if_neg h

theorem value?_of_digit {c : Char} (h : c.isDigit = true ∨ c = '-') (fuel depth : Nat) (cs : List Char) :
    value? (fuel + 1) depth (c :: cs) = number? (c :: cs) := by
  have hne : ∀ d : Char, d.isDigit = false → d ≠ '-' → c ≠ d := by
    rintro d hd hminus rfl
    rcases h with h | h
    · rw [hd] at h
      cases h
    · exact hminus h
  have hblank : ¬(c = ' ' ∨ c = '\t' ∨ c = '\n' ∨ c = '\r') := by
    rintro (h | h | h | h)
    all_goals exact hne _ (by decide) (by decide) h
  rw [value?, skipBlank_cons hblank]
  split
  all_goals first | rfl | (rename_i heq; exact absurd (List.cons.inj heq).1 (hne _ (by decide) (by decide)))

/-- The first character of a whole number. -/
theorem exists_head_toString (n : Int) : ∃ c cs, (toString n).toList = c :: cs ∧ (c.isDigit = true ∨ c = '-') := by
  rw [toList_toString]
  by_cases hneg : n < 0
  · rw [if_pos hneg]
    exact ⟨'-', _, rfl, .inr rfl⟩
  · rw [if_neg hneg, List.nil_append]
    obtain ⟨c, ds, hds⟩ := List.exists_cons_of_ne_nil (Nat.toDigits_ne_nil (b := 10) (n := n.natAbs))
    refine ⟨c, ds, hds, .inl ?_⟩
    rw [← padded_zero] at hds
    exact isDigit_of_mem_padded (hds ▸ List.mem_cons_self)

/-- A written value starts neither with a blank nor with a closing bracket. -/
theorem exists_head_compact {depth : Nat} {v : Json} (h : IsWritable depth v) :
    ∃ c cs, v.compact.toList = c :: cs ∧ ¬(c = ' ' ∨ c = '\t' ∨ c = '\n' ∨ c = '\r') ∧ c ≠ ']' := by
  cases h with
  | null => exact ⟨'n', _, rfl, by decide, by decide⟩
  | @bool _ b =>
    cases b with
    | true => exact ⟨'t', _, rfl, by decide, by decide⟩
    | false => exact ⟨'f', _, rfl, by decide, by decide⟩
  | @integer _ n h =>
    obtain ⟨c, cs, htext, hc⟩ := exists_head_toString n
    refine ⟨c, cs, htext, ?_⟩
    rcases hc with hc | rfl
    · rw [isDigit_iff] at hc
      refine ⟨?_, ?_⟩
      · rintro (rfl | rfl | rfl | rfl)
        all_goals exact absurd hc (by decide)
      · rintro rfl
        exact absurd hc (by decide)
    · decide
  | @string _ s =>
    obtain ⟨cs, htext, -⟩ := stringRest_quoted s []
    rw [List.append_nil] at htext
    exact ⟨'"', cs, htext, by decide, by decide⟩
  | array _ =>
    rw [toList_compact_array]
    exact ⟨'[', _, rfl, by decide, by decide⟩
  | object _ _ =>
    rw [toList_compact_object]
    exact ⟨'\x7b', _, rfl, by decide, by decide⟩

theorem closes_cons {c : Char} (h : c = ',' ∨ c = ']' ∨ c = '\x7d') (rest : List Char) : Closes (c :: rest) := by
  intro d hd
  obtain rfl : c = d := Option.some.inj hd
  exact h

theorem intercalate_comma (cs cs' : List Char) (parts : List (List Char)) (rest : List Char) :
    [','].intercalate (cs :: cs' :: parts) ++ rest = cs ++ ',' :: ([','].intercalate (cs' :: parts) ++ rest) := by
  rw [List.intercalate_cons_cons]
  simp only [List.append_assoc, List.cons_append, List.nil_append]

/-- The items of an array are read up to its closing bracket. -/
theorem itemsRest?_text {depth : Nat} {items : List Json} (hne : items ≠ []) (hread : ∀ v ∈ items, IsRead depth v)
    {fuel : Nat} (hfuel : (items.map fun v => v.compact.toList.length + 1).sum ≤ fuel) (rest : List Char) :
    ∃ items', itemsRest? fuel depth ([','].intercalate (items.map fun v => v.compact.toList) ++ ']' :: rest) =
      some (items', rest) ∧ List.Forall₂ Reordered items items' := by
  induction items generalizing fuel with
  | nil => exact absurd rfl hne
  | cons item items ih =>
    rw [List.map_cons, List.sum_cons] at hfuel
    obtain ⟨fuel, rfl⟩ := Nat.exists_eq_add_of_le' (show 1 ≤ fuel by omega)
    obtain ⟨hitem, hitems⟩ := List.forall_mem_cons.mp hread
    rw [itemsRest?]
    cases items with
    | nil =>
      obtain ⟨v, hv, hsame⟩ := hitem fuel (']' :: rest) (by omega) (closes_cons (by decide) rest)
      rw [List.map_singleton, List.intercalate_singleton, hv]
      exact ⟨[v], rfl, .cons hsame .nil⟩
    | cons next items =>
      let others := [','].intercalate ((next :: items).map fun v => v.compact.toList) ++ ']' :: rest
      obtain ⟨v, hv, hsame⟩ := hitem fuel (',' :: others) (by omega) (closes_cons (by decide) others)
      have hothers : ((next :: items).map fun v => v.compact.toList.length + 1).sum ≤ fuel := by omega
      obtain ⟨items', hitems', hrest⟩ := ih (List.cons_ne_nil _ _) hitems hothers
      have htext : [','].intercalate ((item :: next :: items).map fun v => v.compact.toList) ++ ']' :: rest =
          item.compact.toList ++ ',' :: others := intercalate_comma ..
      rw [htext, hv]
      refine ⟨v :: items', ?_, .cons hsame hrest⟩
      simp only [bind, Option.bind]
      rw [skipBlank_cons (by decide)]
      simp only [others, hitems']

/-- Members with the same names and the same values, but for the order of what is inside of them. -/
def SameMembers : List (String × Json) → List (String × Json) → Prop :=
  List.Forall₂ fun m m' => m'.1 = m.1 ∧ m.2.Reordered m'.2

theorem SameMembers.names {members members' : List (String × Json)} (h : SameMembers members members') :
    members'.map (·.1) = members.map (·.1) := by
  induction h with
  | nil => rfl
  | cons hm _ ih => rw [List.map_cons, List.map_cons, hm.1, ih]

theorem SameMembers.member? {members members' : List (String × Json)} (h : SameMembers members members') (name : String) :
    Option.Rel Reordered (Json.member? name members) (Json.member? name members') := by
  induction h with
  | nil => exact .none
  | @cons m m' members members' hm _ ih =>
    obtain ⟨own, v⟩ := m
    obtain ⟨own', v'⟩ := m'
    obtain ⟨rfl, hv⟩ := hm
    unfold Json.member? at ih ⊢
    by_cases hname : own' = name
    · rw [List.find?_cons_of_pos (by simpa using hname), List.find?_cons_of_pos (by simpa using hname)]
      exact .some hv
    · rw [List.find?_cons_of_neg (by simpa using hname), List.find?_cons_of_neg (by simpa using hname)]
      exact ih

/-- The members of an object are read up to its closing brace. -/
theorem membersRest?_text {depth : Nat} {members : List (String × Json)} (hne : members ≠ [])
    (hread : ∀ m ∈ members, IsRead depth m.2) {fuel : Nat}
    (hfuel : (members.map fun m => (memberText m).length + 1).sum ≤ fuel) (rest : List Char) :
    ∃ members', membersRest? fuel depth ([','].intercalate (members.map memberText) ++ '\x7d' :: rest) =
      some (members', rest) ∧ SameMembers members members' := by
  induction members generalizing fuel with
  | nil => exact absurd rfl hne
  | cons m members ih =>
    rw [List.map_cons, List.sum_cons] at hfuel
    obtain ⟨fuel, rfl⟩ := Nat.exists_eq_add_of_le' (show 1 ≤ fuel by omega)
    obtain ⟨hm, hmembers⟩ := List.forall_mem_cons.mp hread
    obtain ⟨name, value⟩ := m
    change IsRead depth value at hm
    have hlength : (memberText (name, value)).length = (quoted name).toList.length + (value.compact.toList.length + 1) := by
      rw [memberText, List.length_append, List.length_cons]
    cases members with
    | nil =>
      obtain ⟨v, hv, hsame⟩ := hm fuel ('\x7d' :: rest) (by omega) (closes_cons (by decide) rest)
      obtain ⟨cs, hquoted, hname⟩ := stringRest_quoted name (':' :: (value.compact.toList ++ '\x7d' :: rest))
      have htext : [','].intercalate ([(name, value)].map memberText) ++ '\x7d' :: rest = '"' :: cs := by
        rw [← hquoted, List.map_singleton, List.intercalate_singleton, memberText]
        simp only [List.append_assoc, List.cons_append]
      rw [htext, membersRest?, skipBlank_cons (by decide)]
      simp only [hname, bind, Option.bind]
      rw [skipBlank_cons (by decide)]
      simp only [hv]
      rw [skipBlank_cons (by decide)]
      exact ⟨[(name, v)], rfl, .cons ⟨rfl, hsame⟩ .nil⟩
    | cons next members =>
      let others := [','].intercalate ((next :: members).map memberText) ++ '\x7d' :: rest
      have hothers : ((next :: members).map fun m => (memberText m).length + 1).sum ≤ fuel := by omega
      obtain ⟨v, hv, hsame⟩ := hm fuel (',' :: others) (by omega) (closes_cons (by decide) others)
      obtain ⟨members', hmembers', hrest⟩ := ih (List.cons_ne_nil _ _) hmembers hothers
      obtain ⟨cs, hquoted, hname⟩ := stringRest_quoted name (':' :: (value.compact.toList ++ ',' :: others))
      have htext : [','].intercalate (((name, value) :: next :: members).map memberText) ++ '\x7d' :: rest = '"' :: cs := by
        rw [← hquoted, List.map_cons, List.map_cons, intercalate_comma, memberText]
        simp only [others, List.map_cons, List.append_assoc, List.cons_append]
      rw [htext, membersRest?, skipBlank_cons (by decide)]
      simp only [hname, bind, Option.bind]
      rw [skipBlank_cons (by decide)]
      simp only [hv]
      rw [skipBlank_cons (by decide)]
      simp only [others, hmembers']
      exact ⟨(name, v) :: members', rfl, .cons ⟨rfl, hsame⟩ hrest⟩

theorem length_intercalate_comma {parts : List (List Char)} (hne : parts ≠ []) :
    ([','].intercalate parts).length + 1 = (parts.map fun cs => cs.length + 1).sum := by
  induction parts with
  | nil => exact absurd rfl hne
  | cons cs parts ih =>
    cases parts with
    | nil => rw [List.intercalate_singleton, List.map_singleton, List.sum_singleton]
    | cons cs' parts =>
      have hrest := ih (List.cons_ne_nil _ _)
      rw [List.intercalate_cons_cons, List.map_cons, List.sum_cons, ← hrest]
      simp only [List.length_append, List.length_singleton]
      omega

/-- What is joined starts like its first part. -/
theorem exists_intercalate_comma (c : Char) (cs : List Char) (parts : List (List Char)) :
    ∃ rest, [','].intercalate ((c :: cs) :: parts) = c :: rest := by
  cases parts with
  | nil => exact ⟨cs, List.intercalate_singleton⟩
  | cons cs' parts => exact ⟨_, List.intercalate_cons_cons⟩

theorem byName_perm (members : List (String × Json)) : (byName members).Perm members := List.mergeSort_perm _ _

/-- A text is not empty, so there is room for one step. -/
theorem IsWritable.isRead_of_succ {depth : Nat} {v : Json} (h : IsWritable depth v)
    (hread : ∀ (fuel : Nat) (rest : List Char), v.compact.toList.length ≤ fuel + 1 → Closes rest →
      ∃ v', value? (fuel + 1) depth (v.compact.toList ++ rest) = some (v', rest) ∧ v.Reordered v') : IsRead depth v := by
  intro fuel rest hfuel hrest
  obtain ⟨c, cs, htext, -⟩ := exists_head_compact h
  cases fuel with
  | zero =>
    rw [htext] at hfuel
    cases hfuel
  | succ fuel => exact hread fuel rest hfuel hrest

theorem value?_array {c : Char} (hblank : ¬(c = ' ' ∨ c = '\t' ∨ c = '\n' ∨ c = '\r')) (hc : c ≠ ']') (fuel depth : Nat)
    (cs : List Char) : value? (fuel + 1) (depth + 1) ('[' :: c :: cs) =
      (itemsRest? fuel depth (c :: cs)).map fun (items, rest) => (.array items, rest) := by
  rw [value?, skipBlank_cons (by decide)]
  simp only [skipBlank_cons hblank, Nat.add_one_ne_zero, if_false]
  split
  · rename_i hcs
    exact absurd (List.cons.inj hcs).1 hc
  · rfl

theorem value?_object (fuel depth : Nat) (cs : List Char) : value? (fuel + 1) (depth + 1) ('\x7b' :: '"' :: cs) =
    (membersRest? fuel depth ('"' :: cs)).map fun (members, rest) => (ofMembers members, rest) := rfl

theorem isRead_array {depth : Nat} {items : List Json} (hitems : ∀ v ∈ items, IsWritable depth v)
    (ih : ∀ v ∈ items, IsRead depth v) : IsRead (depth + 1) (.array items) := by
  refine (IsWritable.array hitems).isRead_of_succ fun fuel rest hfuel _ => ?_
  rw [toList_compact_array] at hfuel ⊢
  rw [List.length_cons, List.length_append, List.length_singleton] at hfuel
  cases items with
  | nil => exact ⟨.array [], rfl, .refl _⟩
  | cons item items =>
    have hne : (item :: items).map (fun v => v.compact.toList) ≠ [] := by simp
    have hlength := length_intercalate_comma hne
    rw [List.map_map] at hlength
    have hroom : ((item :: items).map fun v => v.compact.toList.length + 1).sum ≤ fuel :=
      Nat.le_trans hlength.ge (by omega)
    obtain ⟨items', hread, hsame⟩ := itemsRest?_text (List.cons_ne_nil item items) ih hroom rest
    -- the text of the first item follows the opening bracket
    obtain ⟨c, cs, htext, hblank, hc⟩ := exists_head_compact (hitems item List.mem_cons_self)
    rw [List.map_cons, htext] at hread ⊢
    obtain ⟨others, hothers⟩ := exists_intercalate_comma c cs (items.map fun v => v.compact.toList)
    rw [hothers] at hread ⊢
    refine ⟨.array items', ?_, .array hsame⟩
    simp only [List.cons_append, List.append_assoc, List.nil_append] at hread ⊢
    rw [value?_array hblank hc, hread]
    rfl

/-- The members are written in the order of their names, so they are read as those of another object. -/
theorem isRead_object {depth : Nat} {members : List (String × Json)} (hnodup : (members.map (·.1)).Nodup)
    (hmembers : ∀ m ∈ members, IsWritable depth m.2) (ih : ∀ m ∈ members, IsRead depth m.2) :
    IsRead (depth + 1) (.object members) := by
  refine (IsWritable.object hnodup hmembers).isRead_of_succ fun fuel rest hfuel _ => ?_
  rw [toList_compact_object] at hfuel ⊢
  rw [List.length_cons, List.length_append, List.length_singleton] at hfuel
  have hperm := byName_perm members
  have hsorted : ∀ m ∈ byName members, IsRead depth m.2 := fun m hm => ih m (hperm.mem_iff.mp hm)
  have hnodup' : ((byName members).map (·.1)).Nodup := (hperm.map _).nodup_iff.mpr hnodup
  have hmember : ∀ name, member? name members = member? name (byName members) := member?_perm hperm.symm hnodup
  cases hmembers' : byName members with
  | nil =>
    rw [hmembers'] at hperm
    obtain rfl : members = [] := List.nil_perm.mp hperm
    exact ⟨.object [], rfl, .refl _⟩
  | cons m sorted =>
    rw [hmembers'] at hfuel hsorted hnodup' hmember
    have hne : (m :: sorted).map memberText ≠ [] := by simp
    have hlength := length_intercalate_comma hne
    rw [List.map_map] at hlength
    have hroom : ((m :: sorted).map fun m => (memberText m).length + 1).sum ≤ fuel := Nat.le_trans hlength.ge (by omega)
    obtain ⟨members', hread, hsame⟩ := membersRest?_text (List.cons_ne_nil m sorted) hsorted hroom rest
    -- the quote of the first name follows the opening brace
    obtain ⟨cs, htext, -⟩ := stringRest_quoted m.1 (':' :: m.2.compact.toList)
    change memberText m = '"' :: cs at htext
    rw [List.map_cons, htext] at hread ⊢
    obtain ⟨others, hothers⟩ := exists_intercalate_comma '"' cs (sorted.map memberText)
    rw [hothers] at hread ⊢
    refine ⟨.object members', ?_, .object fun name => ?_⟩
    · simp only [List.cons_append, List.append_assoc, List.nil_append] at hread ⊢
      rw [value?_object, hread, ← ofMembers_of_nodup (hsame.names ▸ hnodup')]
      rfl
    · rw [hmember]
      exact hsame.member? name

/-- A value is read back from its text, whatever follows it inside of an array or object. -/
theorem IsWritable.isRead {depth : Nat} {v : Json} (h : IsWritable depth v) : IsRead depth v := by
  induction h with
  | null => exact IsWritable.null.isRead_of_succ fun fuel rest _ _ => ⟨.null, rfl, .refl _⟩
  | @bool _ b =>
    refine IsWritable.bool.isRead_of_succ fun fuel rest _ _ => ⟨.bool b, ?_, .refl _⟩
    cases b <;> rfl
  | @integer _ n hn =>
    refine (IsWritable.integer hn).isRead_of_succ fun fuel rest _ hrest => ⟨.int n, ?_, .refl _⟩
    change value? (fuel + 1) _ ((toString n).toList ++ rest) = _
    obtain ⟨c, cs, htext, hc⟩ := exists_head_toString n
    have hread := number?_toString hn hrest
    rw [htext, List.cons_append] at hread ⊢
    rw [value?_of_digit hc, hread]
  | @string _ s =>
    refine IsWritable.string.isRead_of_succ fun fuel rest _ _ => ⟨.string s, ?_, .refl _⟩
    obtain ⟨cs, htext, hread⟩ := stringRest_quoted s rest
    change value? (fuel + 1) _ ((quoted s).toList ++ rest) = _
    rw [htext, value?, skipBlank_cons (by decide)]
    simp only [hread]
    rfl
  | array hitems ih => exact isRead_array hitems ih
  | object hnodup hmembers ih => exact isRead_object hnodup hmembers ih

/-- A value is read back from its compact text, but for the order of the members of its objects. -/
theorem parse?_compact {v : Json} (h : IsWritable 127 v) : ∃ v', parse? v.compact = some v' ∧ v.Reordered v' := by
  have hroom : v.compact.toList.length ≤ 2 * v.compact.toList.length + 2 := by omega
  obtain ⟨v', hread, hsame⟩ := h.isRead _ [] hroom (fun c hc => by cases hc)
  rw [List.append_nil] at hread
  refine ⟨v', ?_, hsame⟩
  unfold parse?
  simp only [hread, bind, Option.bind]
  rfl

end Json

end FundLedger
