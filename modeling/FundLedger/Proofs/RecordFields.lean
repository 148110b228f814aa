import Mathlib.Data.List.Forall2
import Mathlib.Data.List.Nodup
import FundLedger.Proofs.DecimalText
import FundLedger.Proofs.Identifiers
import FundLedger.Proofs.InstantText
import FundLedger.Proofs.JsonText
import FundLedger.Record.Forms
/-!
# Fields that are read back

What the members of an object must be so that the fields of a record are read from them.  Other members do not matter,
nor does any order.

* `Reads`: a value is read from its JSON form, in whatever order the members of objects are.
* `Fields.required_reads`, `Fields.withDefault_reads`, `Fields.optional_reads`, `Fields.nullable_reads`: the kinds of
  fields.
* `reads_decimal`, `reads_id`, `reads_instant`, `reads_list` and others: the kinds of values.
* `RecordForm`: types of records, with the names of their fields.
* `RecordForm.ReadsFields`: a record is read from what holds its fields.
* `SurvivesWire`, `RecordForm.ReadsFields.survivesWire`: it is then read back from its JSON form and from the text.
-/

namespace FundLedger

open JsonForm (encode decode?)

/-! ## Values -/

namespace Json.Reordered

theorem eq_string {s : String} {v : Json} (h : Reordered (.string s) v) : v = .string s := by
  cases h
  rfl

theorem eq_int {n : Int} {v : Json} (h : Reordered (.int n) v) : v = .int n := by
  cases h
  rfl

theorem eq_null {v : Json} (h : Reordered v .null) : v = .null := by
  cases h
  rfl

theorem rel_refl (o : Option Json) : Option.Rel Reordered o o := by
  cases o with
  | none => exact .none
  | some v => exact .some (.refl v)

end Json.Reordered

section Values

variable {α : Type} [JsonForm α]

/-- A value is read from its JSON form as another value, in whatever order the members of objects are. -/
structure Reads (a a' : α) : Prop where
  ne_null : encode a ≠ .null
  decode : ∀ v, (encode a).Reordered v → decode? v = some a'

theorem reads_of_string {s : String} {a a' : α} (h : encode a = .string s) (ha : decode? (.string s) = some a') :
    Reads a a' := by
  refine ⟨?_, fun v hv => ?_⟩
  · rw [h]
    exact Json.noConfusion
  · rw [h] at hv
    rw [hv.eq_string, ha]

theorem reads_string (s : String) : Reads s s := reads_of_string rfl rfl

theorem decode?_id {kind : IdKind} (s : String) :
    (decode? (.string s) : Option (RecordId kind)) = RecordId.ofText? s := rfl

theorem reads_id {kind : IdKind} (id : RecordId kind) : Reads id id := by
  refine reads_of_string rfl ?_
  rw [decode?_id]
  exact id.ofText?_text

theorem decode?_decimal (s : String) : (decode? (.string s) : Option Decimal) = Decimal.ofText? s := rfl

theorem reads_decimal (d : Decimal) : Reads d d.plainZero := by
  refine reads_of_string rfl ?_
  rw [decode?_decimal]
  exact d.ofText?_text

theorem decode?_instant (s : String) : (decode? (.string s) : Option Instant) = Instant.ofText? s := rfl

theorem reads_instant {t : Instant} (h : t.IsWritable) : Reads t t := by
  refine reads_of_string rfl ?_
  rw [decode?_instant]
  exact Instant.ofText?_text h

theorem reads_word (n : Int64) : Reads n n := by
  refine ⟨Json.noConfusion, fun v hv => ?_⟩
  rw [Json.Reordered.eq_int hv]
  have hread : decode? (.int n.toInt) = some (Int64.ofInt n.toInt) := if_pos ⟨n.le_toInt, n.toInt_lt⟩
  rw [hread, Int64.ofInt_toInt]

theorem reads_currency (c : Currency) : Reads c c := reads_of_string rfl (by cases c <;> rfl)

theorem reads_transactionKind (k : TransactionKind) : Reads k k := reads_of_string rfl (by cases k <;> rfl)

theorem reads_transactionSource (s : TransactionSource) : Reads s s := reads_of_string rfl (by cases s <;> rfl)

theorem reads_encumbranceStatus (s : EncumbranceStatus) : Reads s s := reads_of_string rfl (by cases s <;> rfl)

theorem reads_budgetStatus (s : BudgetStatus) : Reads s s := reads_of_string rfl (by cases s <;> rfl)

theorem reads_fundStatus (s : FundStatus) : Reads s s := reads_of_string rfl (by cases s <;> rfl)

theorem reads_expenseClassStatus (s : ExpenseClassStatus) : Reads s s := reads_of_string rfl (by cases s <;> rfl)

theorem rel_reads_map {f : α → α} (h : ∀ a, Reads a (f a)) (o : Option α) : Option.Rel Reads o (o.map f) := by
  cases o with
  | none => exact .none
  | some a => exact .some (h a)

theorem rel_reads {o : Option α} (h : ∀ a : α, Reads a a) : Option.Rel Reads o o := by
  cases o with
  | none => exact .none
  | some a => exact .some (h a)

/-- A list is read one value after the other. -/
theorem reads_list {as as' : List α} (h : List.Forall₂ Reads as as') : Reads as as' := by
  have hitems : ∀ items, List.Forall₂ Json.Reordered (as.map encode) items → items.mapM decode? = some as' := by
    induction h with
    | nil =>
      intro items hitems
      cases hitems
      rfl
    | cons ha _ ih =>
      intro items hitems
      cases hitems with
      | cons hv hrest => rw [List.mapM_cons, ha.decode _ hv, Option.bind_eq_bind, Option.bind_some, ih _ hrest]; rfl
  refine ⟨Json.noConfusion, fun v hv => ?_⟩
  change Json.Reordered (.array (as.map encode)) v at hv
  cases hv with
  | refl => exact hitems _ (List.forall₂_same.mpr fun v _ => .refl v)
  | array hv => exact hitems _ hv

theorem isWritable_list {depth : Nat} {as : List α} (h : ∀ a ∈ as, Json.IsWritable depth (encode a)) :
    Json.IsWritable (depth + 1) (encode as) := by
  refine .array fun v hv => ?_
  obtain ⟨a, ha, rfl⟩ := List.mem_map.mp hv
  exact h a ha

end Values

/-! ## Fields -/

/-- A computation after one that gives a value. -/
theorem bind_of_eq_some {α β : Type} {x : Option α} {f : α → Option β} {a : α} {r : Option β} (hx : x = some a)
    (hf : f a = r) : x.bind f = r := by
  rw [hx]
  exact hf

namespace Fields

variable {α : Type} [JsonForm α] {members : List (String × Json)} {name : String} {position : Nat}
  {a a' default : α} {o o' : Option α}

theorem required_reads (h : Option.Rel Json.Reordered (some (encode a)) (Json.member? name members)) (ha : Reads a a') :
    (named members).required position name = some a' := by
  change (Json.member? name members).bind decode? = some a'
  generalize Json.member? name members = value at h ⊢
  cases h with
  | some hv => exact ha.decode _ hv

theorem value?_named (members : List (String × Json)) (position : Nat) (name : String) :
    (named members).value? position name = Json.member? name members := rfl

theorem withDefault_reads (h : Option.Rel Json.Reordered (some (encode a)) (Json.member? name members))
    (ha : Reads a a') : (named members).withDefault position name default = some a' := by
  unfold withDefault
  rw [value?_named]
  generalize Json.member? name members = value at h ⊢
  cases h with
  | some hv => exact ha.decode _ hv

theorem optional_of_none (h : Json.member? name members = none) :
    (named members).optional position name = some (none : Option α) := by
  unfold optional
  rw [value?_named, h]

theorem optional_of_null (h : Json.member? name members = some .null) :
    (named members).optional position name = some (none : Option α) := by
  unfold optional
  rw [value?_named, h]

/-- A value is not null, so it is read where null is nothing. -/
theorem optional_of_reordered {v : Json} (h : Json.member? name members = some v) (hv : (encode a).Reordered v)
    (ha : Reads a a') : (named members).optional position name = some (some a') := by
  unfold optional
  rw [value?_named, h]
  split
  · rename_i hnone
    cases hnone
  · rename_i hnull
    cases hnull
    exact absurd hv.eq_null ha.ne_null
  · rename_i hsome
    cases hsome
    rw [ha.decode v hv]
    rfl

theorem optional_reads (h : Option.Rel Json.Reordered (o.map encode) (Json.member? name members))
    (ho : Option.Rel Reads o o') : (named members).optional position name = some o' := by
  generalize hmember : Json.member? name members = value at h
  cases ho with
  | none =>
    cases h
    exact optional_of_none hmember
  | some ha =>
    cases h with
    | some hv => exact optional_of_reordered hmember hv ha

/-- In an object, what may be null may be missing as well. -/
theorem nullable_named (members : List (String × Json)) (position : Nat) (name : String) :
    ((named members).nullable position name : Option (Option α)) = (named members).optional position name := by
  unfold nullable optional
  generalize (named members).value? position name = value
  cases value with
  | none => rfl
  | some v => cases v <;> rfl

theorem nullable_reads (h : Option.Rel Json.Reordered (some (o.elim .null encode)) (Json.member? name members))
    (ho : Option.Rel Reads o o') : (named members).nullable position name = some o' := by
  rw [nullable_named]
  generalize hmember : Json.member? name members = value at h
  cases ho with
  | none =>
    cases h with
    | some hv =>
      cases hv
      exact optional_of_null hmember
  | some ha =>
    cases h with
    | some hv => exact optional_of_reordered hmember hv ha

end Fields

/-! ## Records -/

/-- The members that are written. -/
def present (slots : List (String × Option Json)) : List (String × Json) := slots.filterMap fun s => s.2.map (s.1, ·)

theorem present_nil : present [] = [] := rfl

theorem present_cons_some (name : String) (v : Json) (slots : List (String × Option Json)) :
    present ((name, some v) :: slots) = (name, v) :: present slots := rfl

theorem present_cons_map {α : Type} [JsonForm α] (name : String) (o : Option α) (slots : List (String × Option Json)) :
    present ((name, o.map encode) :: slots) = memberIfSome name o ++ present slots := by
  cases o <;> rfl

theorem present_append (slots slots' : List (String × Option Json)) :
    present (slots ++ slots') = present slots ++ present slots' := List.filterMap_append

theorem names_present_sublist (slots : List (String × Option Json)) :
    ((present slots).map (·.1)).Sublist (slots.map (·.1)) := by
  induction slots with
  | nil => exact .slnil
  | cons s slots ih =>
    obtain ⟨name, o⟩ := s
    cases o with
    | none => exact ih.cons name
    | some v => exact ih.cons_cons name

/-- What an object holds in place of the fields of a record. -/
def HoldsSlots (members : List (String × Json)) (slots : List (String × Option Json)) : Prop :=
  ∀ s ∈ slots, Option.Rel Json.Reordered s.2 (Json.member? s.1 members)

theorem mem_present {slots : List (String × Option Json)} {m : String × Json} :
    m ∈ present slots ↔ (m.1, some m.2) ∈ slots := by
  unfold present
  rw [List.mem_filterMap]
  constructor
  · rintro ⟨⟨name, o⟩, hs, hm⟩
    obtain ⟨v, rfl, rfl⟩ := Option.map_eq_some_iff.mp hm
    exact hs
  · exact fun hs => ⟨_, hs, rfl⟩

/-- A field is found among the written members exactly if it is written. -/
theorem member?_present {slots : List (String × Option Json)} (hnodup : (slots.map (·.1)).Nodup) :
    ∀ s ∈ slots, Json.member? s.1 (present slots) = s.2 := by
  rintro ⟨name, o⟩ hs
  cases o with
  | some v => exact (Json.member?_eq_some_iff (hnodup.sublist (names_present_sublist slots))).mpr (mem_present.mpr hs)
  | none =>
    rw [Json.member?_eq_none_iff]
    intro m hm hname
    have hsame := List.inj_on_of_nodup_map hnodup (mem_present.mp hm) hs hname
    cases hsame

/-- Records that are written as an object of their fields. -/
class RecordForm (α : Type) [JsonForm α] where
  /-- The names of the fields. -/
  names : List String
  /-- The fields with what is written of them. -/
  slots : α → List (String × Option Json)
  map_fst_slots : ∀ a, (slots a).map (·.1) = names
  nodup_names : names.Nodup
  encode_eq : ∀ a, encode a = .object (present (slots a))

namespace RecordForm

variable {α : Type} [JsonForm α] [RecordForm α] {a a' : α} {members : List (String × Json)}

theorem nodup_slots (a : α) : ((slots a).map (·.1)).Nodup := map_fst_slots a ▸ nodup_names

/-- The members that are written hold the fields, and so do they in any order and among others. -/
theorem holds_of_perm (h : (members.filter fun m => (names α).contains m.1).Perm (present (slots a))) :
    HoldsSlots members (slots a) := by
  intro s hs
  have hname : s.1 ∈ names α := by
    rw [← map_fst_slots a]
    exact List.mem_map_of_mem hs
  have hfilter : Json.member? s.1 (members.filter fun m => (names α).contains m.1) = Json.member? s.1 members := by
    unfold Json.member?
    rw [List.find?_filter]
    congr 2
    funext m
    by_cases hm : m.1 = s.1
    · simp [hm, hname]
    · simp [hm]
  have hnodup := (nodup_slots a).sublist (names_present_sublist (slots a))
  rw [← hfilter, Json.member?_perm h ((h.map _).nodup_iff.mpr hnodup), member?_present (nodup_slots a) s hs]
  exact Json.Reordered.rel_refl s.2

/-- The fields are held by what the written object is, but for its order. -/
theorem holds_of_reordered {v : Json} (h : (encode a).Reordered v) :
    ∃ members, v = .object members ∧ HoldsSlots members (slots a) := by
  rw [encode_eq] at h
  cases h with
  | refl =>
    refine ⟨_, rfl, fun s hs => ?_⟩
    rw [member?_present (nodup_slots a) s hs]
    exact Json.Reordered.rel_refl s.2
  | object h =>
    refine ⟨_, rfl, fun s hs => ?_⟩
    rw [← member?_present (nodup_slots a) s hs]
    exact h s.1

/-- A record is read from an object that holds its fields, and they are written with at most so many arrays and objects
inside each other. -/
structure ReadsFields (depth : Nat) (a a' : α) : Prop where
  writable : ∀ s ∈ slots a, ∀ v ∈ s.2, Json.IsWritable depth v
  decode : ∀ members, HoldsSlots members (slots a) → decode? (.object members) = some a'

theorem ReadsFields.reads {depth : Nat} (h : ReadsFields depth a a') : Reads a a' := by
  refine ⟨?_, fun v hv => ?_⟩
  · rw [encode_eq]
    exact Json.noConfusion
  · obtain ⟨members, rfl, hholds⟩ := holds_of_reordered hv
    exact h.decode members hholds

theorem ReadsFields.isWritable {depth : Nat} (h : ReadsFields depth a a') : Json.IsWritable (depth + 1) (encode a) := by
  rw [encode_eq]
  refine .object ((nodup_slots a).sublist (names_present_sublist (slots a))) fun m hm => ?_
  exact h.writable _ (mem_present.mp hm) m.2 rfl

end RecordForm

/-- A record survives being written and read: as a value and as text, and members of other names change nothing, wherever
they are put.  What is read is `a'`. -/
structure SurvivesWire {α : Type} [JsonForm α] [RecordForm α] (a a' : α) : Prop where
  value : decode? (encode a) = some a'
  text : (Json.parse? (encode a).compact).bind decode? = some a'
  others : ∀ own members, encode a = .object own →
    (members.filter fun m => (RecordForm.names α).contains m.1).Perm own → decode? (.object members) = some a'

theorem RecordForm.ReadsFields.survivesWire {α : Type} [JsonForm α] [RecordForm α] {a a' : α} {depth : Nat}
    (h : ReadsFields depth a a') (hdepth : depth ≤ 126) : SurvivesWire a a' where
  value := h.reads.decode _ (.refl _)
  text := by
    obtain ⟨v, hparse, hsame⟩ := Json.parse?_compact (h.isWritable.mono (Nat.succ_le_succ hdepth))
    rw [hparse]
    exact h.reads.decode v hsame
  others := by
    intro own members hown hperm
    rw [encode_eq] at hown
    cases hown
    exact h.decode members (holds_of_perm hperm)

end FundLedger
