import FundLedger.Ident
/-!
# Tables

A table holds records in ascending order of their identifiers, one for each.

* `Keyed`: records with an identifier.
* `Table.find?`, `Table.put`, `Table.erase`: the record of an identifier, and tables with one record put in or taken
  out.
* `find?_eq_some_iff`, `mem_put`, `mem_erase`: what these operations do to the records.
-/

namespace FundLedger

/-- Records that are named by an identifier. -/
class Keyed (ρ : Type) (kind : outParam IdKind) where
  /-- The identifier of a record. -/
  id : ρ → RecordId kind

/-- Records in ascending order of their identifiers. -/
structure Table (ρ : Type) {kind : IdKind} [Keyed ρ kind] where
  records : List ρ
  ascending : records.Pairwise fun a b => Keyed.id a < Keyed.id b := by exact List.Pairwise.nil

namespace Table

variable {ρ : Type} {kind : IdKind} [Keyed ρ kind]

@[ext]
theorem ext {t t' : Table ρ} (h : t.records = t'.records) : t = t' := by
  cases t
  cases t'
  cases h
  rfl

/-- The table without records. -/
def empty : Table ρ where
  records := []

instance : Membership ρ (Table ρ) := ⟨fun t r => r ∈ t.records⟩

theorem mem_def {r : ρ} {t : Table ρ} : r ∈ t ↔ r ∈ t.records := Iff.rfl

/-- The record with an identifier. -/
def find? (t : Table ρ) (id : RecordId kind) : Option ρ := t.records.find? fun r => Keyed.id r == id

/-- Records with one put in before those of greater identifiers, in place of the one with its identifier. -/
def insert (r : ρ) : List ρ → List ρ
  | [] => [r]
  | a :: rest =>
    if Keyed.id r < Keyed.id a then r :: a :: rest
    else if Keyed.id r = Keyed.id a then r :: rest
    else a :: insert r rest

theorem mem_of_mem_insert {r a : ρ} {rs : List ρ} (h : a ∈ insert r rs) : a = r ∨ a ∈ rs := by
  induction rs with
  | nil => exact .inl (List.mem_singleton.1 h)
  | cons b rest ih =>
    unfold insert at h
    split at h
    · exact List.mem_cons.1 h
    · split at h
      · exact (List.mem_cons.1 h).imp_right (List.mem_cons_of_mem _)
      · rcases List.mem_cons.1 h with rfl | h
        · exact .inr List.mem_cons_self
        · exact (ih h).imp_right (List.mem_cons_of_mem _)

theorem insert_ascending (r : ρ) {rs : List ρ} (h : rs.Pairwise fun a b => Keyed.id a < Keyed.id b) :
    (insert r rs).Pairwise fun a b => Keyed.id a < Keyed.id b := by
  induction rs with
  | nil => exact List.pairwise_singleton _ _
  | cons a rest ih =>
    obtain ⟨ha, hrest⟩ := List.pairwise_cons.1 h
    unfold insert
    split
    · rename_i hlt
      refine List.pairwise_cons.2 ⟨fun b hb => ?_, h⟩
      rcases List.mem_cons.1 hb with rfl | hb
      · exact hlt
      · exact RecordId.lt_trans hlt (ha b hb)
    · rename_i hlt
      split
      · rename_i heq
        exact List.pairwise_cons.2 ⟨fun b hb => heq ▸ ha b hb, hrest⟩
      · rename_i hne
        refine List.pairwise_cons.2 ⟨fun b hb => ?_, ih hrest⟩
        rcases mem_of_mem_insert hb with rfl | hb
        · exact RecordId.lt_of_not_lt_of_ne hlt hne
        · exact ha b hb

/-- The table with a record put in, in place of the one with its identifier. -/
def put (t : Table ρ) (r : ρ) : Table ρ := ⟨insert r t.records, insert_ascending r t.ascending⟩

/-- The table without the record of an identifier. -/
def erase (t : Table ρ) (id : RecordId kind) : Table ρ :=
  ⟨t.records.filter fun r => Keyed.id r != id, t.ascending.filter _⟩

/-- The table of some records; of those with one identifier the last one counts. -/
def ofList (rs : List ρ) : Table ρ := rs.foldl put empty

theorem find?_eq_some_iff {t : Table ρ} {id : RecordId kind} {r : ρ} : t.find? id = some r ↔ r ∈ t ∧ Keyed.id r = id := by
  obtain ⟨rs, h⟩ := t
  show rs.find? (fun r => Keyed.id r == id) = some r ↔ r ∈ rs ∧ Keyed.id r = id
  induction rs with
  | nil => simp
  | cons a rest ih =>
    obtain ⟨ha, hrest⟩ := List.pairwise_cons.1 h
    by_cases hid : Keyed.id a = id
    · subst hid
      simp only [List.find?_cons, beq_self_eq_true, Option.some.injEq, List.mem_cons]
      constructor
      · rintro rfl
        exact ⟨.inl rfl, rfl⟩
      · rintro ⟨rfl | hr, hkey⟩
        · rfl
        · exact absurd (hkey ▸ ha r hr) (RecordId.lt_irrefl _)
    · simp only [List.find?_cons, beq_false_of_ne hid, List.mem_cons, ih hrest]
      constructor
      · rintro ⟨hr, hkey⟩
        exact ⟨.inr hr, hkey⟩
      · rintro ⟨rfl | hr, hkey⟩
        · exact absurd hkey hid
        · exact ⟨hr, hkey⟩

theorem eq_of_id_eq {t : Table ρ} {a b : ρ} (ha : a ∈ t) (hb : b ∈ t) (h : Keyed.id a = Keyed.id b) : a = b := by
  have hfa := find?_eq_some_iff.2 ⟨ha, h⟩
  have hfb := find?_eq_some_iff.2 ⟨hb, rfl⟩
  exact Option.some.inj (hfa.symm.trans hfb)

theorem find?_eq_none_iff {t : Table ρ} {id : RecordId kind} : t.find? id = none ↔ ∀ r ∈ t, Keyed.id r ≠ id := by
  simp [find?, mem_def]

theorem mem_put {t : Table ρ} {r a : ρ} : a ∈ t.put r ↔ a = r ∨ (a ∈ t ∧ Keyed.id a ≠ Keyed.id r) := by
  obtain ⟨rs, h⟩ := t
  show a ∈ insert r rs ↔ a = r ∨ (a ∈ rs ∧ Keyed.id a ≠ Keyed.id r)
  induction rs with
  | nil => simp [insert]
  | cons b rest ih =>
    obtain ⟨hb, hrest⟩ := List.pairwise_cons.1 h
    unfold insert
    split
    · rename_i hlt
      have hne : ∀ c ∈ b :: rest, Keyed.id c ≠ Keyed.id r := by
        intro c hc heq
        rcases List.mem_cons.1 hc with rfl | hc
        · exact RecordId.lt_irrefl _ (heq ▸ hlt)
        · exact RecordId.lt_irrefl _ (RecordId.lt_trans (heq ▸ hlt) (hb c hc))
      rw [List.mem_cons]
      exact or_congr_right ⟨fun hc => ⟨hc, hne a hc⟩, And.left⟩
    · split
      · rename_i heq
        have hne : ∀ c ∈ rest, Keyed.id c ≠ Keyed.id r := fun c hc hcr =>
          RecordId.lt_irrefl _ ((heq ▸ hcr) ▸ hb c hc)
        rw [List.mem_cons, List.mem_cons]
        refine or_congr_right ⟨fun hc => ⟨.inr hc, hne a hc⟩, ?_⟩
        rintro ⟨rfl | hc, hac⟩
        · exact absurd heq.symm hac
        · exact hc
      · rename_i hne
        rw [List.mem_cons, ih hrest, List.mem_cons]
        constructor
        · rintro (rfl | rfl | ⟨hc, hac⟩)
          · exact .inr ⟨.inl rfl, fun e => hne e.symm⟩
          · exact .inl rfl
          · exact .inr ⟨.inr hc, hac⟩
        · rintro (rfl | ⟨rfl | hc, hac⟩)
          · exact .inr (.inl rfl)
          · exact .inl rfl
          · exact .inr (.inr ⟨hc, hac⟩)

theorem mem_erase {t : Table ρ} {id : RecordId kind} {a : ρ} : a ∈ t.erase id ↔ a ∈ t ∧ Keyed.id a ≠ id := by
  simp [erase, mem_def]

end Table

end FundLedger
